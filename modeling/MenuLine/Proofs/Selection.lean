import Mathlib.Order.Defs.LinearOrder
import MenuLine.Proofs.Matching
import MenuLine.Shell

/-!
# Which command is chosen

The command that is chosen is the first of those that score most:
`Statement.Wins` says so without the order in which they are looked at. From it
follows what a further command, another order and a command of literal words
change. The main statement is `Statement.select_first_best`. `Shell.Chosen` says
the same of the commands of the menu that was opened last.
-/

namespace MenuLine

namespace MatchTier

instance : LinearOrder MatchTier where
  le_refl a := Nat.le_refl a.rank
  le_trans a b c := Nat.le_trans
  lt_iff_le_not_ge a b := Nat.lt_iff_le_and_not_ge
  le_antisymm a b hab hba := rank_injective (Nat.le_antisymm hab hba)
  le_total a b := Nat.le_total a.rank b.rank
  toDecidableLE := inferInstance
  toDecidableEq := inferInstance
  toDecidableLT := inferInstance

theorem none_le (t : MatchTier) : none ≤ t := Nat.zero_le t.rank

theorem le_exact (t : MatchTier) : t ≤ exact := by
  cases t <;> decide

end MatchTier

namespace Statement

/-- The description at `i` scores `tier`, no other one scores more and none in
front of it as much. -/
structure Wins (typed : Statement) (ds : List Statement) (i : Nat) (tier : MatchTier) : Prop where
  reached : (ds[i]?).map (score typed) = some tier
  above : .none < tier
  best : ∀ d ∈ ds, score typed d ≤ tier
  first : ∀ j < i, ∀ d, ds[j]? = some d → score typed d < tier

variable {typed : Statement} {ds : List Statement} {i j : Nat} {tier tier' : MatchTier}

/-! ## One description more in front -/

theorem Wins.head {d : Statement} (habove : .none < score typed d)
    (hbest : ∀ e ∈ ds, score typed e ≤ score typed d) :
    Wins typed (d :: ds) 0 (score typed d) := by
  refine ⟨rfl, habove, ?_, ?_⟩
  · intro e he
    rcases List.mem_cons.1 he with rfl | he
    · exact le_refl _
    · exact hbest e he
  · intro j hj
    exact absurd hj (Nat.not_lt_zero j)

theorem Wins.tail {d : Statement} (h : Wins typed ds i tier) (hd : score typed d < tier) :
    Wins typed (d :: ds) (i + 1) tier := by
  refine ⟨h.reached, h.above, ?_, ?_⟩
  · intro e he
    rcases List.mem_cons.1 he with rfl | he
    · exact le_of_lt hd
    · exact h.best e he
  · intro j hj e he
    cases j with
    | zero =>
        cases he
        exact hd
    | succ j => exact h.first j (Nat.lt_of_succ_lt_succ hj) e he

theorem select_cons (typed d : Statement) (ds : List Statement) :
    select typed (d :: ds) =
      match select typed ds with
      | some (i, best) =>
        if score typed d < best then some (i + 1, best) else some (0, score typed d)
      | none => if score typed d = .none then none else some (0, score typed d) := rfl

theorem select_eq_none_iff (typed : Statement) (ds : List Statement) :
    select typed ds = none ↔ ∀ d ∈ ds, score typed d = .none := by
  induction ds with
  | nil => simp
  | cons d ds ih =>
      rw [List.forall_mem_cons, ← ih, select_cons]
      cases select typed ds with
      | none => simp
      | some best =>
          dsimp only
          split <;> simp

theorem wins_of_select (h : select typed ds = some (i, tier)) : Wins typed ds i tier := by
  induction ds generalizing i tier with
  | nil => cases h
  | cons d ds ih =>
      rw [select_cons] at h
      cases hselect : select typed ds with
      | none =>
          have hnone := (select_eq_none_iff typed ds).1 hselect
          rw [hselect] at h
          dsimp only at h
          split at h
          · cases h
          · next hd =>
              cases h
              apply Wins.head (MatchTier.none_lt_iff.2 hd)
              intro e he
              rw [hnone e he]
              exact MatchTier.none_le _
      | some best =>
          obtain ⟨k, t⟩ := best
          have hwins := ih hselect
          rw [hselect] at h
          dsimp only at h
          split at h
          · next hlt =>
              cases h
              exact hwins.tail hlt
          · next hnotLt =>
              cases h
              have hle : t ≤ score typed d := not_lt.1 hnotLt
              apply Wins.head (lt_of_lt_of_le hwins.above hle)
              intro e he
              exact le_trans (hwins.best e he) hle

/-! ## One winner -/

theorem Wins.exists_mem (h : Wins typed ds i tier) :
    ∃ d ∈ ds, ds[i]? = some d ∧ score typed d = tier := by
  obtain ⟨d, hd, hscore⟩ := Option.map_eq_some_iff.1 h.reached
  exact ⟨d, List.mem_of_getElem? hd, hd, hscore⟩

theorem Wins.tier_unique (h : Wins typed ds i tier) (h' : Wins typed ds j tier') :
    tier = tier' := by
  obtain ⟨d, hd, -, rfl⟩ := h.exists_mem
  obtain ⟨e, he, -, rfl⟩ := h'.exists_mem
  exact le_antisymm (h'.best d hd) (h.best e he)

theorem Wins.not_lt (h : Wins typed ds i tier) (h' : Wins typed ds j tier') : ¬ i < j := by
  intro hlt
  obtain ⟨d, -, hd, hscore⟩ := h.exists_mem
  have hless := h'.first i hlt d hd
  rw [hscore, h.tier_unique h'] at hless
  exact lt_irrefl _ hless

theorem select_eq_some_iff : select typed ds = some (i, tier) ↔ Wins typed ds i tier := by
  constructor
  · exact wins_of_select
  · intro h
    cases hselect : select typed ds with
    | none =>
        obtain ⟨d, hd, -, hscore⟩ := h.exists_mem
        have hnone := (select_eq_none_iff typed ds).1 hselect d hd
        exact absurd (hscore.symm.trans hnone) (MatchTier.none_lt_iff.1 h.above)
    | some best =>
        obtain ⟨k, t⟩ := best
        have hwins := wins_of_select hselect
        have hi : k = i := Nat.le_antisymm (Nat.not_lt.1 (h.not_lt hwins))
          (Nat.not_lt.1 (hwins.not_lt h))
        rw [hi, hwins.tier_unique h]

/-! ## One description more at the end -/

theorem Wins.concat (h : Wins typed ds i tier) {d : Statement} (hd : score typed d ≤ tier) :
    Wins typed (ds ++ [d]) i tier := by
  obtain ⟨e, -, he, hscore⟩ := h.exists_mem
  have hi : i < ds.length := (List.getElem?_eq_some_iff.1 he).1
  refine ⟨?_, h.above, ?_, ?_⟩
  · rw [List.getElem?_append_left hi]
    exact h.reached
  · intro c hc
    rcases List.mem_append.1 hc with hc | hc
    · exact h.best c hc
    · rw [List.mem_singleton.1 hc]
      exact hd
  · intro j hj c hc
    rw [List.getElem?_append_left (Nat.lt_trans hj hi)] at hc
    exact h.first j hj c hc

theorem wins_last {d : Statement} (habove : .none < score typed d)
    (hbest : ∀ e ∈ ds, score typed e < score typed d) :
    Wins typed (ds ++ [d]) ds.length (score typed d) := by
  refine ⟨by simp, habove, ?_, ?_⟩
  · intro e he
    rcases List.mem_append.1 he with he | he
    · exact le_of_lt (hbest e he)
    · rw [List.mem_singleton.1 he]
  · intro j hj e he
    rw [List.getElem?_append_left hj] at he
    exact hbest e (List.mem_of_getElem? he)

theorem select_concat (typed : Statement) (ds : List Statement) (d : Statement) :
    select typed (ds ++ [d]) =
      if .none < score typed d ∧ ∀ e ∈ ds, score typed e < score typed d then
        some (ds.length, score typed d)
      else select typed ds := by
  split
  · next h => exact select_eq_some_iff.2 (wins_last h.1 h.2)
  · next h =>
      cases hselect : select typed ds with
      | none =>
          have hnone := (select_eq_none_iff typed ds).1 hselect
          rw [select_eq_none_iff]
          intro e he
          rcases List.mem_append.1 he with he | he
          · exact hnone e he
          · rw [List.mem_singleton.1 he]
            apply Classical.byContradiction
            intro hd
            refine h ⟨MatchTier.none_lt_iff.2 hd, fun e he => ?_⟩
            rw [hnone e he]
            exact MatchTier.none_lt_iff.2 hd
      | some best =>
          obtain ⟨i, tier⟩ := best
          have hwins := wins_of_select hselect
          refine select_eq_some_iff.2 (hwins.concat (not_lt.1 fun hlt => ?_))
          refine h ⟨lt_of_le_of_lt (MatchTier.none_le tier) hlt, fun e he => ?_⟩
          exact lt_of_le_of_lt (hwins.best e he) hlt

/-! ## Another order, and literal words -/

theorem Wins.tier_perm {es : List Statement} (h : Wins typed ds i tier)
    (h' : Wins typed es j tier') (hperm : es.Perm ds) : tier' = tier := by
  obtain ⟨d, hd, -, rfl⟩ := h.exists_mem
  obtain ⟨e, he, -, rfl⟩ := h'.exists_mem
  exact le_antisymm (h.best e (hperm.mem_iff.1 he)) (h'.best d (hperm.mem_iff.2 hd))

theorem tier_select_perm {es : List Statement} (hperm : es.Perm ds) :
    (select typed es).map Prod.snd = (select typed ds).map Prod.snd := by
  have hnone : select typed es = none ↔ select typed ds = none := by
    rw [select_eq_none_iff, select_eq_none_iff]
    exact forall_congr' fun d => by rw [hperm.mem_iff]
  cases hds : select typed ds with
  | none => rw [hnone.2 hds]
  | some best =>
      cases hes : select typed es with
      | none => cases hds.symm.trans (hnone.1 hes)
      | some best' =>
          exact congrArg some ((wins_of_select hds).tier_perm (wins_of_select hes) hperm)

theorem wins_of_literals {d : Statement} (hd : ds[i]? = some d)
    (hliteral : ∀ s ∈ d.segments, ∃ t, s = .literal t) (htyped : typed.segments = d.segments)
    (hfirst : ∀ j < i, ∀ e, ds[j]? = some e → e.segments ≠ d.segments) :
    Wins typed ds i .exact := by
  have hscore : score typed d = .exact := (score_eq_exact_iff typed d).2 ⟨hliteral, htyped⟩
  refine ⟨by rw [hd, Option.map_some, hscore], by decide, fun e _ => MatchTier.le_exact _, ?_⟩
  intro j hj e he
  apply lt_of_le_of_ne (MatchTier.le_exact _)
  intro hexact
  have hwords := ((score_eq_exact_iff typed e).1 hexact).2
  exact hfirst j hj e he (hwords.symm.trans htyped)

/-- No command is chosen if and only if none scores, and otherwise the first one
that scores most, with its score. So a further command is chosen only if it
scores more than all in front of it, the tier does not depend on the order of
the commands, and a command of literal words is chosen for these words unless
there is another one with the same words in front of it. -/
theorem select_first_best (typed : Statement) (ds : List Statement) :
    (select typed ds = none ↔ ∀ d ∈ ds, score typed d = .none) ∧
    (∀ i tier, select typed ds = some (i, tier) ↔ Wins typed ds i tier) ∧
    (∀ d, select typed (ds ++ [d]) =
      if .none < score typed d ∧ ∀ e ∈ ds, score typed e < score typed d then
        some (ds.length, score typed d)
      else select typed ds) ∧
    (∀ es, es.Perm ds → (select typed es).map Prod.snd = (select typed ds).map Prod.snd) ∧
    ∀ i d, ds[i]? = some d → (∀ s ∈ d.segments, ∃ t, s = .literal t) →
      typed.segments = d.segments →
      (∀ j < i, ∀ e, ds[j]? = some e → e.segments ≠ d.segments) →
      select typed ds = some (i, .exact) := by
  refine ⟨select_eq_none_iff typed ds, fun i tier => select_eq_some_iff,
    select_concat typed ds, fun es hperm => tier_select_perm hperm, ?_⟩
  intro i d hd hliteral htyped hfirst
  exact select_eq_some_iff.2 (wins_of_literals hd hliteral htyped hfirst)

end Statement

namespace Shell

open MenuStack (current_eq_ok_iff)

variable {shell : Shell} {stack : MenuStack} {typed : Statement} {choice choice' : Choice}

/-- The command for a statement: it stands at its place in the menu that was
opened last, no command there scores more, and none in front of it as much. -/
structure Chosen (shell : Shell) (stack : MenuStack) (typed : Statement) (choice : Choice) :
    Prop where
  onTop : (stack.opened shell.menus).getLast? = some choice.menu
  found : (shell.menus.commands choice.menu)[choice.position]? = some choice.command
  wins : ∃ tier, typed.Wins
    ((shell.menus.commands choice.menu).map fun c => c.description.statement) choice.position tier

/-- No menu is open, or no command of the one that was opened last scores. -/
def Unmatched (shell : Shell) (stack : MenuStack) (typed : Statement) : Prop :=
  ∀ menu, (stack.opened shell.menus).getLast? = some menu →
    ∀ command ∈ shell.menus.commands menu, typed.score command.description.statement = .none

theorem choose_of_onTop {menu : MenuId} (hmenu : (stack.opened shell.menus).getLast? = some menu) :
    shell.choose stack typed = (typed.select (shell.descriptions menu)).bind fun best =>
      (shell.menus.commands menu)[best.1]?.map fun command => ⟨menu, best.1, command⟩ := by
  simp only [choose, current_eq_ok_iff.2 hmenu]
  cases typed.select (shell.descriptions menu) <;> rfl

theorem choose_eq_some_iff :
    shell.choose stack typed = some choice ↔ shell.Chosen stack typed choice := by
  constructor
  · intro h
    unfold choose at h
    split at h
    · cases h
    · next menu hmenu =>
        split at h
        · cases h
        · next position tier hselect =>
            obtain ⟨command, hcommand, rfl⟩ := Option.map_eq_some_iff.1 h
            exact ⟨current_eq_ok_iff.1 hmenu, hcommand, tier, Statement.wins_of_select hselect⟩
  · rintro ⟨honTop, hfound, tier, hwins⟩
    have hselect : typed.select (shell.descriptions choice.menu) = some (choice.position, tier) :=
      Statement.select_eq_some_iff.2 hwins
    rw [choose_of_onTop honTop, hselect, Option.bind_some, hfound, Option.map_some]

theorem Chosen.unique (h : shell.Chosen stack typed choice)
    (h' : shell.Chosen stack typed choice') : choice = choice' :=
  Option.some.inj ((choose_eq_some_iff.2 h).symm.trans (choose_eq_some_iff.2 h'))

theorem Chosen.not_unmatched (h : shell.Chosen stack typed choice) :
    ¬ shell.Unmatched stack typed := by
  intro hunmatched
  obtain ⟨tier, hwins⟩ := h.wins
  obtain ⟨d, hd, -, hscore⟩ := hwins.exists_mem
  obtain ⟨command, hcommand, rfl⟩ := List.mem_map.1 hd
  have hnone := hunmatched choice.menu h.onTop command hcommand
  exact MatchTier.none_lt_iff.1 hwins.above (hscore.symm.trans hnone)

end Shell

end MenuLine
