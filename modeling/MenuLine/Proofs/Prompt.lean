import Mathlib.Data.List.Infix
import MenuLine.Shell

/-!
# Prompts

A prompt is made from a template in two passes, and the second one also reads
what the first one has put in. `Config.fillIn` reads the template once.
`Shell.prompt_eq_fillIn_iff` says when the two agree: as long as the name of the
menu, or its joining with the template, makes no mark for the name of the host
that the template does not hold itself.
-/

namespace MenuLine

namespace Text

/-- How often a mark stands in a text. -/
def occurrences (mark t : Text) : Nat := t.tails.countP mark.isPrefixOf

variable {mark : Text}

theorem occurrences_cons_pos {c : Char} {t : Text} (h : mark <+: c :: t) :
    occurrences mark (c :: t) = occurrences mark t + 1 := by
  rw [occurrences, List.tails_cons, List.countP_cons_of_pos (List.isPrefixOf_iff_prefix.2 h)]
  rfl

theorem occurrences_cons_neg {c : Char} {t : Text} (h : ¬ mark <+: c :: t) :
    occurrences mark (c :: t) = occurrences mark t := by
  rw [occurrences, List.tails_cons,
    List.countP_cons_of_neg (mt List.isPrefixOf_iff_prefix.1 h)]
  rfl

theorem occurrences_le_append (s t : Text) : occurrences mark t ≤ occurrences mark (s ++ t) := by
  induction s with
  | nil => exact Nat.le_refl _
  | cons c s ih =>
      refine Nat.le_trans ih ?_
      by_cases h : mark <+: c :: (s ++ t)
      · rw [List.cons_append, occurrences_cons_pos h]
        exact Nat.le_succ _
      · rw [List.cons_append, occurrences_cons_neg h]

/-- A beginning that lacks a character ends in front of it. -/
theorem prefix_of_notMem {u front rest : Text} {c : Char} (h : u <+: front ++ c :: rest)
    (hc : c ∉ u) : u <+: front := by
  rcases List.prefix_or_prefix_of_prefix h (List.prefix_append front _) with h' | ⟨v, rfl⟩
  · exact h'
  · cases v with
    | nil => simp
    | cons d v =>
        have hd : d = c := by
          have hcons := (List.prefix_append_right_inj front).1 h
          exact (List.cons_prefix_cons.1 hcons).1
        exact absurd (by simp [hd]) hc

end Text

namespace Config

open Text

/-! ## One mark -/

section replaceMark

variable {mark new : Text}

theorem replaceMark_skip (front rest : Text) :
    replaceMark mark new front.length (front ++ rest) = replaceMark mark new 0 rest := by
  induction front with
  | nil => rfl
  | cons c front ih => simpa [replaceMark] using ih

theorem replaceMark_append (hmark : mark ≠ []) (rest : Text) :
    replaceMark mark new 0 (mark ++ rest) = new ++ replaceMark mark new 0 rest := by
  obtain ⟨c, front, rfl⟩ := List.exists_cons_of_ne_nil hmark
  have hbegins : (c :: front).isPrefixOf (c :: (front ++ rest)) = true :=
    List.isPrefixOf_iff_prefix.2 (List.prefix_append (c :: front) rest)
  rw [List.cons_append, replaceMark, if_pos hbegins]
  exact congrArg (new ++ ·) (replaceMark_skip front rest)

theorem replaceMark_cons {c : Char} {rest : Text} (h : ¬ mark <+: c :: rest) :
    replaceMark mark new 0 (c :: rest) = c :: replaceMark mark new 0 rest := by
  rw [replaceMark, if_neg (mt List.isPrefixOf_iff_prefix.1 h)]

/-- A text is read from left to right, a mark at once and any other character on
its own. -/
theorem mark_induction {P : Text → Prop} (hmark : mark ≠ []) (nil : P [])
    (found : ∀ rest, P rest → P (mark ++ rest))
    (letter : ∀ c rest, ¬ mark <+: c :: rest → P rest → P (c :: rest)) (t : Text) : P t := by
  induction hn : t.length using Nat.strongRecOn generalizing t with
  | _ n ih =>
      subst hn
      by_cases hbegins : mark <+: t
      · obtain ⟨rest, rfl⟩ := hbegins
        have hpos := List.length_pos_iff.2 hmark
        exact found rest (ih _ (by rw [List.length_append]; omega) rest rfl)
      · cases t with
        | nil => exact nil
        | cons c rest => exact letter c rest hbegins (ih _ (Nat.lt_succ_self _) rest rfl)

theorem replaceMark_self (hmark : mark ≠ []) (t : Text) : replaceMark mark mark 0 t = t := by
  induction t using mark_induction hmark with
  | nil => rfl
  | found rest ih => rw [replaceMark_append hmark, ih]
  | letter c rest h ih => rw [replaceMark_cons h, ih]

end replaceMark

theorem hostMark_ne_nil : hostMark ≠ [] := List.cons_ne_nil _ _

theorem setMark_ne_nil : setMark ≠ [] := List.cons_ne_nil _ _

theorem occurrences_hostMark_append (rest : Text) :
    occurrences hostMark (hostMark ++ rest) = occurrences hostMark rest + 1 := by
  simp [occurrences, hostMark, List.isPrefixOf]

theorem occurrences_setMark_append (rest : Text) :
    occurrences hostMark (setMark ++ rest) = occurrences hostMark rest := by
  simp [occurrences, hostMark, setMark, List.isPrefixOf]

theorem length_replaceMark (host t : Text) :
    (replaceMark hostMark host 0 t).length + hostMark.length * occurrences hostMark t =
      t.length + host.length * occurrences hostMark t := by
  induction t using mark_induction hostMark_ne_nil with
  | nil => rfl
  | found rest ih =>
      rw [replaceMark_append hostMark_ne_nil, occurrences_hostMark_append, List.length_append,
        List.length_append, Nat.mul_succ, Nat.mul_succ]
      omega
  | letter c rest h ih =>
      rw [replaceMark_cons h, occurrences_cons_neg h, List.length_cons,
        List.length_cons]
      omega

/-! ## Both marks at once -/

/-- The template read once, from left to right: the mark of the menu stands for
the name of the menu, the mark of the host for that of the host, and every other
character for itself. -/
def fillIn (menu host : Text) : Text → Text
  | '{' :: 's' :: 'e' :: 't' :: '}' :: rest => menu ++ fillIn menu host rest
  | '{' :: 'h' :: 'o' :: 's' :: 't' :: '}' :: rest => host ++ fillIn menu host rest
  | c :: rest => c :: fillIn menu host rest
  | [] => []

variable (menu host : Text)

theorem template_induction {P : Text → Prop} (nil : P [])
    (menuMark : ∀ rest, P rest → P (setMark ++ rest))
    (hostMark : ∀ rest, P rest → P (hostMark ++ rest))
    (letter : ∀ c rest, ¬ setMark <+: c :: rest → ¬ Config.hostMark <+: c :: rest →
      P rest → P (c :: rest)) (t : Text) : P t := by
  fun_induction fillIn [] [] t with
  | case1 rest ih => exact menuMark rest ih
  | case2 rest ih => exact hostMark rest ih
  | case3 c rest hset hhost ih =>
      apply letter c rest _ _ ih
      · rintro ⟨u, hu⟩
        cases hu
        exact hset u rfl rfl
      · rintro ⟨u, hu⟩
        cases hu
        exact hhost u rfl rfl
  | case4 => exact nil

theorem fillIn_setMark (rest : Text) :
    fillIn menu host (setMark ++ rest) = menu ++ fillIn menu host rest := rfl

theorem fillIn_hostMark (rest : Text) :
    fillIn menu host (hostMark ++ rest) = host ++ fillIn menu host rest := rfl

theorem fillIn_cons {c : Char} {rest : Text} (hset : ¬ setMark <+: c :: rest)
    (hhost : ¬ hostMark <+: c :: rest) :
    fillIn menu host (c :: rest) = c :: fillIn menu host rest := by
  rw [fillIn]
  · rintro u rfl rfl
    exact hset ⟨u, rfl⟩
  · rintro u rfl rfl
    exact hhost ⟨u, rfl⟩

/-- The first pass leaves the mark of the host as it is. -/
theorem replaceMark_setMark (t : Text) : replaceMark setMark menu 0 t = fillIn menu hostMark t := by
  induction t using template_induction with
  | nil => rfl
  | menuMark rest ih => rw [replaceMark_append setMark_ne_nil, fillIn_setMark, ih]
  | hostMark rest ih =>
      rw [fillIn_hostMark, ← ih]
      simp [replaceMark, setMark, hostMark, List.isPrefixOf]
  | letter c rest hset hhost ih =>
      rw [replaceMark_cons hset, fillIn_cons menu hostMark hset hhost, ih]

theorem length_fillIn (t : Text) :
    (fillIn menu host t).length + hostMark.length * occurrences hostMark t =
      (fillIn menu hostMark t).length + host.length * occurrences hostMark t := by
  induction t using template_induction with
  | nil => rfl
  | menuMark rest ih =>
      rw [fillIn_setMark, fillIn_setMark, occurrences_setMark_append, List.length_append,
        List.length_append]
      omega
  | hostMark rest ih =>
      rw [fillIn_hostMark, fillIn_hostMark, occurrences_hostMark_append, List.length_append,
        List.length_append, Nat.mul_succ, Nat.mul_succ]
      omega
  | letter c rest hset hhost ih =>
      rw [fillIn_cons menu host hset hhost, fillIn_cons menu hostMark hset hhost,
        occurrences_cons_neg hhost, List.length_cons, List.length_cons]
      omega

/-- No mark of the host is lost where the name of the menu is put in. -/
theorem occurrences_le_fillIn (t : Text) :
    occurrences hostMark t ≤ occurrences hostMark (fillIn menu hostMark t) := by
  induction t using template_induction with
  | nil => exact Nat.le_refl _
  | menuMark rest ih =>
      rw [fillIn_setMark, occurrences_setMark_append]
      exact Nat.le_trans ih (occurrences_le_append _ _)
  | hostMark rest ih =>
      rw [fillIn_hostMark, occurrences_hostMark_append, occurrences_hostMark_append]
      omega
  | letter c rest hset hhost ih =>
      rw [fillIn_cons menu hostMark hset hhost, occurrences_cons_neg hhost]
      exact Nat.le_trans ih (occurrences_le_append [c] _)

/-- Up to the first brace of a mark, what is filled in for the host does not
matter. -/
theorem prefix_fillIn {u front t : Text} (hu : '{' ∉ u)
    (h : u <+: front ++ fillIn menu hostMark t) : u <+: front ++ fillIn menu host t := by
  induction t using template_induction generalizing front with
  | nil => exact h
  | menuMark rest ih =>
      rw [fillIn_setMark, ← List.append_assoc] at h ⊢
      exact ih h
  | hostMark rest ih =>
      have hfront : u <+: front := prefix_of_notMem h hu
      exact hfront.trans (List.prefix_append _ _)
  | letter c rest hset hhost ih =>
      rw [fillIn_cons menu hostMark hset hhost, List.append_cons] at h
      rw [fillIn_cons menu host hset hhost, List.append_cons]
      exact ih h

/-! ## Two passes -/

/-- The second pass, in the midst of a template, does as it should: it goes over
what is left of a name and over what the first pass has made of the rest. -/
def Agrees (front t : Text) : Prop :=
  replaceMark hostMark host 0 (front ++ fillIn menu hostMark t) = front ++ fillIn menu host t ↔
    host = hostMark ∨ occurrences hostMark (front ++ fillIn menu hostMark t) =
      occurrences hostMark t

variable {menu host}

/-- A mark that the template does not hold makes a difference, unless it is what
is filled in for the host. -/
theorem agrees_of_begins {c : Char} {front t : Text}
    (hbegins : hostMark <+: c :: (front ++ fillIn menu hostMark t)) :
    Agrees menu host (c :: front) t := by
  have hmore : occurrences hostMark t <
      occurrences hostMark (c :: (front ++ fillIn menu hostMark t)) := by
    rw [occurrences_cons_pos hbegins]
    exact Nat.lt_succ_of_le ((occurrences_le_fillIn menu t).trans (occurrences_le_append _ _))
  constructor
  · intro heq
    rw [List.cons_append, List.cons_append] at heq
    obtain ⟨extra, hextra⟩ := Nat.exists_eq_add_of_lt hmore
    have hlength : hostMark.length = host.length := by
      have hpasses := length_replaceMark host (c :: (front ++ fillIn menu hostMark t))
      have honce := length_fillIn menu host t
      rw [heq, hextra, Nat.add_assoc, Nat.mul_add _ (occurrences hostMark t),
        Nat.mul_add _ (occurrences hostMark t)] at hpasses
      simp only [List.length_cons, List.length_append] at hpasses
      have hmul : hostMark.length * (extra + 1) = host.length * (extra + 1) := by omega
      exact Nat.eq_of_mul_eq_mul_right (Nat.succ_pos extra) hmul
    -- The name of the host stands where both readings of the template have the mark.
    have hboth : hostMark <+: c :: (front ++ fillIn menu host t) := by
      obtain ⟨rfl, htail⟩ := List.cons_prefix_cons.1 hbegins
      exact List.cons_prefix_cons.2 ⟨rfl, prefix_fillIn menu host (by decide) htail⟩
    obtain ⟨rest, hrest⟩ := hbegins
    obtain ⟨rest', hrest'⟩ := hboth
    rw [← hrest, ← hrest', replaceMark_append hostMark_ne_nil] at heq
    exact .inl (List.append_inj_left heq hlength.symm)
  · rintro (rfl | hsame)
    · exact replaceMark_self hostMark_ne_nil _
    · exact absurd hsame (Nat.ne_of_gt hmore)

theorem Agrees.cons {c : Char} {front t : Text} (h : Agrees menu host front t) :
    Agrees menu host (c :: front) t := by
  by_cases hbegins : hostMark <+: c :: (front ++ fillIn menu hostMark t)
  · exact agrees_of_begins hbegins
  · unfold Agrees at h ⊢
    rw [List.cons_append, List.cons_append, replaceMark_cons hbegins,
      occurrences_cons_neg hbegins, ← h, List.cons_inj_right]

theorem Agrees.append {t : Text} (h : Agrees menu host [] t) (front : Text) :
    Agrees menu host front t := by
  induction front with
  | nil => exact h
  | cons c front ih => exact ih.cons

variable (menu host)

theorem agrees (t : Text) : ∀ front, Agrees menu host front t := by
  induction t using template_induction with
  | nil =>
      refine Agrees.append ?_
      simp [Agrees, fillIn, replaceMark]
  | menuMark rest ih =>
      refine Agrees.append ?_
      have hmenu : Agrees menu host menu rest := ih menu
      unfold Agrees at hmenu ⊢
      rw [fillIn_setMark, fillIn_setMark, occurrences_setMark_append]
      exact hmenu
  | hostMark rest ih =>
      refine Agrees.append ?_
      have hrest : Agrees menu host [] rest := ih []
      unfold Agrees at hrest ⊢
      rw [List.nil_append, List.nil_append] at hrest ⊢
      rw [fillIn_hostMark, fillIn_hostMark, replaceMark_append hostMark_ne_nil,
        occurrences_hostMark_append, occurrences_hostMark_append, List.append_right_inj,
        Nat.add_right_cancel_iff]
      exact hrest
  | letter c rest hset hhost ih =>
      refine Agrees.append ?_
      have hletter : Agrees menu host [c] rest := ih [c]
      unfold Agrees at hletter ⊢
      rw [fillIn_cons menu hostMark hset hhost, fillIn_cons menu host hset hhost,
        occurrences_cons_neg hhost]
      exact hletter

end Config

namespace Shell

open Config Text

/-- The prompt is the template read once if and only if putting in the name of
the menu leaves as many marks of the host in the template as there were, or if
the host is called like its mark. -/
theorem prompt_eq_fillIn_iff (shell : Shell) (stack : MenuStack) (host : Text) :
    shell.prompt stack host =
        fillIn ((shell.currentName? stack).getD []) host shell.config.prompt ↔
      host = hostMark ∨
        occurrences hostMark
            (replaceMark setMark ((shell.currentName? stack).getD []) 0 shell.config.prompt) =
          occurrences hostMark shell.config.prompt := by
  have hagrees := agrees ((shell.currentName? stack).getD []) host shell.config.prompt []
  unfold Agrees at hagrees
  rw [List.nil_append, List.nil_append, ← replaceMark_setMark] at hagrees
  exact hagrees

/-- A menu that is called like the mark of the host, and one whose name makes
this mark together with the template. -/
theorem prompt_expands_menu :
    let marked : Shell := { Shell.empty .default with menus := ⟨[⟨hostMark, []⟩]⟩ }
    let joined : Shell :=
      { Shell.empty { Config.default with prompt := "\x7b\x7bset\x7d\x7d> ".toList } with
        menus := ⟨[⟨"host".toList, []⟩]⟩ }
    (Shell.empty .default).addMenu hostMark = .ok marked ∧
      marked.prompt .empty "lab".toList = "lab> ".toList ∧
      fillIn hostMark "lab".toList marked.config.prompt = hostMark ++ "> ".toList ∧
    (Shell.empty joined.config).addMenu "host".toList = .ok joined ∧
      joined.prompt .empty "lab".toList = "lab> ".toList ∧
      fillIn "host".toList "lab".toList joined.config.prompt = hostMark ++ "> ".toList := by
  refine ⟨rfl, rfl, rfl, rfl, rfl, rfl⟩

end Shell

end MenuLine
