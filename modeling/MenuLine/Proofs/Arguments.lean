import Mathlib.Data.List.Nodup
import Mathlib.Order.Monotone.Basic
import MenuLine.Proofs.Matching
import MenuLine.Statement.DescriptionGrammar

/-!
# What a handler is given

The arguments are words of the statement, and which ones they are is a matter of
positions: those of the numbered placeholders in front of the wildcard, in the
order of their numbers, and then all from the wildcard on. `places` lists the
first kind and `taken` the second, and `Statement.arguments_places` says that a
handler is given the words at these positions and nothing else.
-/

namespace MenuLine

def Segment.renumber (f : ℕ → ℕ) : Segment → Segment
  | .placeholder (.numbered n) completion => .placeholder (.numbered (f n)) completion
  | s => s

namespace Statement

def renumber (f : ℕ → ℕ) (description : Statement) : Statement :=
  { description with segments := description.segments.map (Segment.renumber f) }

def wordAt? (typed : Statement) (i : ℕ) : Option Text := typed.segments[i]?.map Segment.text

/-- The placeholder with this number stands at `i`, in front of the wildcard. -/
def Numbered (ds : List Segment) (n i : ℕ) : Prop :=
  InFront ds i ∧ ∃ completion, ds[i]? = some (.placeholder (.numbered n) completion)

/-- The positions of the words that the wildcard takes. -/
def taken (typed description : Statement) : List ℕ :=
  match description.wildcardPosition with
  | none => []
  | some w => List.range' w (typed.segments.length - w)

/-! ## The places of the numbers -/

def shift (p : ℕ × ℕ) : ℕ × ℕ := (p.1, p.2 + 1)

/-- The numbers in front of the wildcard, each with its position. -/
def places : List Segment → List (ℕ × ℕ)
  | [] => []
  | .literal _ :: ds => (places ds).map shift
  | .placeholder .wildcard _ :: _ => []
  | .placeholder (.numbered n) _ :: ds => (n, 0) :: (places ds).map shift

theorem zero_notMem_map_shift (n : ℕ) (ps : List (ℕ × ℕ)) : (n, 0) ∉ ps.map shift := by
  simp [shift]

theorem succ_mem_map_shift {n i : ℕ} {ps : List (ℕ × ℕ)} :
    (n, i + 1) ∈ ps.map shift ↔ (n, i) ∈ ps := by
  simp [shift]

theorem numbered_succ {d : Segment} (hd : d.isWildcard = false) (ds : List Segment) (n i : ℕ) :
    Numbered (d :: ds) n (i + 1) ↔ Numbered ds n i := by
  rw [Numbered, inFront_succ hd]
  rfl

theorem mem_places {ds : List Segment} {n i : ℕ} : (n, i) ∈ places ds ↔ Numbered ds n i := by
  induction ds generalizing i with
  | nil => simp [places, Numbered]
  | cons d ds ih =>
      cases d with
      | literal t =>
          cases i with
          | zero => simp [places, zero_notMem_map_shift, Numbered]
          | succ i => rw [places, succ_mem_map_shift, ih, numbered_succ rfl]
      | placeholder slot completion =>
          cases slot with
          | wildcard =>
              have hfront := not_inFront_wildcard (d := .placeholder .wildcard completion) rfl ds i
              simp [places, Numbered, hfront]
          | numbered m =>
              cases i with
              | zero =>
                  have hfront := inFront_zero (d := .placeholder (.numbered m) completion) rfl ds
                  simp [places, zero_notMem_map_shift, Numbered, hfront, eq_comm]
              | succ i =>
                  rw [numbered_succ rfl, ← ih, places, List.mem_cons, succ_mem_map_shift]
                  simp

theorem lt_length_of_mem_places {ds : List Segment} {p : ℕ × ℕ} (h : p ∈ places ds) :
    p.2 < ds.length := by
  obtain ⟨-, completion, hi⟩ := mem_places.1 h
  exact (List.getElem?_eq_some_iff.1 hi).1

theorem places_sublist (ds : List Segment) :
    ((places ds).map fun p => Slot.numbered p.1).Sublist (ds.filterMap Segment.slot?) := by
  induction ds with
  | nil => exact List.Sublist.refl []
  | cons d ds ih =>
      have hshift : ((places ds).map shift).map (fun p => Slot.numbered p.1) =
          (places ds).map fun p => Slot.numbered p.1 := by
        rw [List.map_map]
        rfl
      cases d with
      | literal t =>
          rw [places, hshift]
          exact ih
      | placeholder slot completion =>
          cases slot with
          | wildcard => exact List.nil_sublist _
          | numbered n =>
              rw [places, List.map_cons, hshift]
              exact ih.cons_cons _

theorem nodup_numbers {ds : List Segment} (h : Grammar.Distinct ds) :
    ((places ds).map Prod.fst).Nodup := by
  apply List.Nodup.of_map Slot.numbered
  rw [List.map_map]
  exact h.sublist (places_sublist ds)

theorem length_places {ds : List Segment} (h : ds.any Segment.isWildcard = false) :
    (places ds).length = ds.countP Segment.isNumbered := by
  induction ds with
  | nil => rfl
  | cons d ds ih =>
      rw [List.any_cons, Bool.or_eq_false_iff] at h
      have hrest := ih h.2
      cases d with
      | literal t => simpa [places, Segment.isNumbered] using hrest
      | placeholder slot completion =>
          cases slot with
          | wildcard => cases h.1
          | numbered n =>
              rw [places, List.length_cons, List.length_map, hrest, List.countP_cons_of_pos rfl]

/-! ## What is found there -/

theorem captures_fst (us ds : List Segment) :
    (captures us ds).1 =
      (places ds).filterMap fun p => us[p.2]?.map fun u => (p.1, u.text) := by
  induction ds generalizing us with
  | nil => rfl
  | cons d ds ih =>
      have hshift : ((places ds).map shift).filterMap (fun p => us[p.2]?.map fun u => (p.1, u.text))
          = (captures us.tail ds).1 := by
        rw [ih, List.filterMap_map]
        simp [Function.comp_def, shift]
      cases d with
      | literal t => rw [places, hshift, captures]
      | placeholder slot completion =>
          cases slot with
          | wildcard => rfl
          | numbered n =>
              rw [places, List.filterMap_cons, hshift, captures]
              cases us <;> rfl

theorem captures_snd_cons {d : Segment} (hd : d.isWildcard = false) (us ds : List Segment) :
    (captures us (d :: ds)).2 = (captures us.tail ds).2 := by
  cases d with
  | literal t => rfl
  | placeholder slot completion =>
      cases slot with
      | numbered n => rfl
      | wildcard => cases hd

theorem captures_snd_of_none {ds : List Segment} (h : ds.findIdx? Segment.isWildcard = none)
    (us : List Segment) : (captures us ds).2 = [] := by
  induction ds generalizing us with
  | nil => rfl
  | cons d ds ih =>
      rw [List.findIdx?_eq_none_iff] at h ih
      rw [captures_snd_cons (h d List.mem_cons_self)]
      exact ih (fun e he => h e (List.mem_cons_of_mem d he)) us.tail

theorem captures_snd_of_some {ds : List Segment} {w : ℕ}
    (h : ds.findIdx? Segment.isWildcard = some w) (us : List Segment) :
    (captures us ds).2 = (us.drop w).map Segment.text := by
  induction ds generalizing us w with
  | nil => cases h
  | cons d ds ih =>
      rw [List.findIdx?_cons] at h
      cases hd : d.isWildcard with
      | true =>
          rw [hd] at h
          cases h
          cases d with
          | literal t => cases hd
          | placeholder slot completion =>
              cases slot with
              | numbered n => cases hd
              | wildcard => rfl
      | false =>
          rw [hd] at h
          obtain ⟨v, hv, rfl⟩ := Option.map_eq_some_iff.1 h
          rw [captures_snd_cons hd, ih hv, List.drop_tail]

/-- Where there are words enough, none of the numbers is left without one. -/
theorem map_captures_fst {us ds : List Segment} (hlength : ds.length ≤ us.length) :
    (captures us ds).1.map (fun p => (p.1, some p.2)) =
      (places ds).map fun p => (p.1, us[p.2]?.map Segment.text) := by
  rw [captures_fst, List.map_filterMap, ← List.filterMap_eq_map]
  apply List.filterMap_congr
  intro p hp
  have hlt : p.2 < us.length := Nat.lt_of_lt_of_le (lt_length_of_mem_places hp) hlength
  simp [List.getElem?_eq_getElem hlt]

theorem map_drop_eq_map_range' (us : List Segment) (w : ℕ) :
    (us.drop w).map (fun u => some u.text) =
      (List.range' w (us.length - w)).map fun i => us[i]?.map Segment.text := by
  apply List.ext_getElem
  · simp
  · intro i hi _
    have hlt : w + i < us.length := by
      simp only [List.length_map, List.length_drop] at hi
      omega
    simp [List.getElem?_eq_getElem hlt]

/-! ## The order of the numbers -/

def inOrder (ps : List (ℕ × α)) : List (ℕ × α) := ps.mergeSort fun a b => a.1 ≤ b.1

theorem arguments_eq (u d : Statement) :
    arguments u d =
      (inOrder (captures u.segments d.segments).1).map Prod.snd ++
        (captures u.segments d.segments).2 := rfl

theorem map_inOrder {f : ℕ × α → ℕ × β} {ps : List (ℕ × α)}
    (hf : ∀ p ∈ ps, ∀ q ∈ ps, p.1 ≤ q.1 ↔ (f p).1 ≤ (f q).1) :
    (inOrder ps).map f = inOrder (ps.map f) :=
  List.map_mergeSort fun p hp q hq => decide_eq_decide.2 (hf p hp q hq)

theorem pairwise_inOrder {ps : List (ℕ × α)} (h : (ps.map Prod.fst).Nodup) :
    (inOrder ps).Pairwise fun p q => p.1 < q.1 := by
  have hperm : (inOrder ps).Perm ps := List.mergeSort_perm ps _
  have hsorted : (inOrder ps).Pairwise fun p q => decide (p.1 ≤ q.1) = true := by
    apply List.pairwise_mergeSort
    · intro a b c hab hbc
      exact decide_eq_true (Nat.le_trans (of_decide_eq_true hab) (of_decide_eq_true hbc))
    · intro a b
      simpa using Nat.le_total a.1 b.1
  have hdistinct : (inOrder ps).Pairwise fun p q => p.1 ≠ q.1 :=
    List.pairwise_map.1 ((hperm.map Prod.fst).nodup_iff.2 h)
  refine hsorted.imp₂ (fun p q hle hne => ?_) hdistinct
  exact Nat.lt_of_le_of_ne (of_decide_eq_true hle) hne

theorem mem_inOrder_places {ds : List Segment} {n i : ℕ} :
    (n, i) ∈ inOrder (places ds) ↔ Numbered ds n i := by
  have hperm : (inOrder (places ds)).Perm (places ds) := List.mergeSort_perm _ _
  rw [hperm.mem_iff, mem_places]

/-! ## The positions of the arguments -/

variable {u d : Statement}

theorem map_some_arguments (hlength : d.segments.length ≤ u.segments.length) :
    (arguments u d).map some =
      ((inOrder (places d.segments)).map Prod.snd ++ taken u d).map u.wordAt? := by
  have hnumbers : ((inOrder (captures u.segments d.segments).1).map Prod.snd).map some =
      ((inOrder (places d.segments)).map Prod.snd).map u.wordAt? := by
    calc
      _ = ((inOrder (captures u.segments d.segments).1).map
            fun p => (p.1, some p.2)).map Prod.snd := by simp
      _ = ((inOrder (places d.segments)).map
            fun p => (p.1, u.segments[p.2]?.map Segment.text)).map Prod.snd := by
        rw [map_inOrder (f := fun p => (p.1, some p.2)) fun _ _ _ _ => Iff.rfl,
          map_captures_fst hlength,
          map_inOrder (f := fun p => (p.1, u.segments[p.2]?.map Segment.text))
            fun _ _ _ _ => Iff.rfl]
      _ = _ := by
        rw [List.map_map, List.map_map]
        rfl
  have hrest : (captures u.segments d.segments).2.map some = (taken u d).map u.wordAt? := by
    unfold taken wildcardPosition
    cases hw : d.segments.findIdx? Segment.isWildcard with
    | none => rw [captures_snd_of_none hw, List.map_nil, List.map_nil]
    | some w =>
        rw [captures_snd_of_some hw, List.map_map]
        exact map_drop_eq_map_range' u.segments w
  rw [arguments_eq, List.map_append, hnumbers, hrest, List.map_append]

theorem mem_taken {i : ℕ} :
    i ∈ taken u d ↔ i < u.segments.length ∧ ∃ w ≤ i, d.wildcardPosition = some w := by
  unfold taken
  cases d.wildcardPosition with
  | none => simp
  | some w =>
      simp only [List.mem_range'_1, Option.some.injEq, exists_eq_right']
      omega

theorem InFront.notMem_taken {i : ℕ} (h : InFront d.segments i) : i ∉ taken u d := by
  intro hi
  obtain ⟨-, w, hle, hw⟩ := mem_taken.1 hi
  exact Nat.not_lt.2 hle (h w hw)

theorem nodup_positions (hdistinct : Grammar.Distinct d.segments) :
    ((inOrder (places d.segments)).map Prod.snd ++ taken u d).Nodup := by
  have hordered := pairwise_inOrder (nodup_numbers hdistinct)
  have hplaces : (inOrder (places d.segments)).Nodup :=
    hordered.imp fun hlt heq => absurd (congrArg Prod.fst heq) (Nat.ne_of_lt hlt)
  rw [List.nodup_append]
  refine ⟨?_, ?_, ?_⟩
  · apply hplaces.map_on
    intro p hp q hq hpq
    obtain ⟨-, completion, hfirst⟩ := mem_inOrder_places.1 hp
    obtain ⟨-, completion', hsecond⟩ := mem_inOrder_places.1 hq
    rw [hpq, hsecond, Option.some.injEq, Segment.placeholder.injEq, Slot.numbered.injEq] at hfirst
    exact Prod.ext hfirst.1.symm hpq
  · unfold taken
    split
    · exact List.nodup_nil
    · exact List.nodup_range'
  · intro i hi j hj
    obtain ⟨p, hp, rfl⟩ := List.mem_map.1 hi
    rintro rfl
    exact (mem_inOrder_places.1 hp).1.notMem_taken hj

/-! ## Other numbers -/

theorem captures_renumber (f : ℕ → ℕ) (us ds : List Segment) :
    captures us (ds.map (Segment.renumber f)) =
      ((captures us ds).1.map fun p => (f p.1, p.2), (captures us ds).2) := by
  induction ds generalizing us with
  | nil => rfl
  | cons d ds ih =>
      cases d with
      | literal t => exact ih us.tail
      | placeholder slot completion =>
          cases slot with
          | wildcard => rfl
          | numbered n =>
              simp only [List.map_cons, Segment.renumber, captures, ih us.tail]
              cases us <;> simp

theorem hasSlot_of_mem_captures {us : List Segment} {p : ℕ × Text}
    (h : p ∈ (captures us d.segments).1) : d.hasSlot (.numbered p.1) = true := by
  rw [captures_fst, List.mem_filterMap] at h
  obtain ⟨⟨n, i⟩, hplace, hword⟩ := h
  obtain ⟨-, completion, hi⟩ := mem_places.1 hplace
  obtain ⟨word, -, rfl⟩ := Option.map_eq_some_iff.1 hword
  exact List.any_eq_true.2 ⟨_, List.mem_of_getElem? hi, by simp [Segment.slot?]⟩

theorem arguments_renumber {f : ℕ → ℕ}
    (hf : StrictMonoOn f {n | d.hasSlot (.numbered n) = true}) :
    arguments u (d.renumber f) = arguments u d := by
  have horder : (inOrder (captures u.segments d.segments).1).map (fun p => (f p.1, p.2)) =
      inOrder ((captures u.segments d.segments).1.map fun p => (f p.1, p.2)) := by
    apply map_inOrder
    intro p hp q hq
    exact (hf.le_iff_le (hasSlot_of_mem_captures hp) (hasSlot_of_mem_captures hq)).symm
  have hcaptures := captures_renumber f u.segments d.segments
  rw [arguments_eq, arguments_eq, renumber, hcaptures, ← horder, List.map_map]
  rfl

/-- For a statement that scores, the arguments are the words at the numbered
placeholders in front of the wildcard, by ascending number, followed by all words
from the wildcard on. No word of the statement is handed on twice and none that
stands at a literal word in front of the wildcard; without a wildcard their
number is that of the placeholders; and only the order of the numbers counts. -/
theorem arguments_places (hdistinct : Grammar.Distinct d.segments)
    (hscore : .none < score u d) :
    (∃ ps : List (ℕ × ℕ), (∀ n i, (n, i) ∈ ps ↔ Numbered d.segments n i) ∧
      (ps.Pairwise fun p q => p.1 < q.1) ∧
      (arguments u d).map some = (ps.map Prod.snd ++ taken u d).map u.wordAt? ∧
      (ps.map Prod.snd ++ taken u d).Nodup ∧
      ∀ i t, InFront d.segments i → d.segments[i]? = some (.literal t) →
        i ∉ ps.map Prod.snd ++ taken u d) ∧
    (d.hasWildcard = false →
      (arguments u d).length = d.segments.countP Segment.isNumbered) ∧
    ∀ f, StrictMonoOn f {n | d.hasSlot (.numbered n) = true} →
      arguments u (d.renumber f) = arguments u d := by
  have hlength := (length_of_score (MatchTier.none_lt_iff.1 hscore)).1
  have hwords := map_some_arguments hlength
  refine ⟨⟨inOrder (places d.segments), fun n i => mem_inOrder_places,
    pairwise_inOrder (nodup_numbers hdistinct), hwords, nodup_positions hdistinct, ?_⟩, ?_, ?_⟩
  · intro i t hi ht hmem
    rcases List.mem_append.1 hmem with hmem | hmem
    · obtain ⟨p, hp, rfl⟩ := List.mem_map.1 hmem
      obtain ⟨-, completion, hplace⟩ := mem_inOrder_places.1 hp
      cases ht.symm.trans hplace
    · exact hi.notMem_taken hmem
  · intro hwildcard
    have hposition : d.wildcardPosition = none := by simpa [hasWildcard] using hwildcard
    have htaken : taken u d = [] := by rw [taken, hposition]
    have hcount := congrArg List.length hwords
    rw [htaken, List.append_nil, List.length_map, List.length_map, List.length_map] at hcount
    rw [hcount, inOrder, List.length_mergeSort]
    exact length_places (hasWildcard_eq_any d ▸ hwildcard)
  · intro f hf
    exact arguments_renumber hf

/-- Numbers that are out of order and have gaps, a literal word between them and
a wildcard with two words for it. -/
theorem arguments_places_out_of_order :
    let typed : Statement :=
      ⟨["go", "x", "to", "y", "z", "w"].map fun t => .literal t.toList, [], none⟩
    let described : Statement :=
      ⟨[.literal "go".toList, .placeholder (.numbered 7) none, .literal "to".toList,
        .placeholder (.numbered 3) none, .placeholder .wildcard none], [], none⟩
    Grammar.Distinct described.segments ∧ .none < score typed described ∧
      (∃ ps : List (ℕ × ℕ), (3, 3) ∈ ps ∧ (7, 1) ∈ ps ∧ (ps.Pairwise fun p q => p.1 < q.1) ∧
        (arguments typed described).map some =
          (ps.map Prod.snd ++ [4, 5]).map typed.wordAt? ∧ 2 ∉ ps.map Prod.snd ++ [4, 5]) ∧
      arguments typed (described.renumber fun n => n - 2) = arguments typed described := by
  intro typed described
  have hdistinct : Grammar.Distinct described.segments := by
    unfold Grammar.Distinct
    decide
  have hscore : .none < score typed described := by decide
  have hslots : ∀ n, described.hasSlot (.numbered n) = true → 7 = n ∨ 3 = n := by
    intro n
    simp [hasSlot, described, Segment.slot?]
  obtain ⟨⟨ps, hmem, hordered, hwords, -, hliteral⟩, -, hrenumber⟩ :=
    arguments_places hdistinct hscore
  have hfront : ∀ i < 4, InFront described.segments i := by
    intro i hi w hw
    cases (show described.segments.findIdx? Segment.isWildcard = some 4 from rfl).symm.trans hw
    exact hi
  refine ⟨hdistinct, hscore, ⟨ps, ?_, ?_, hordered, hwords, ?_⟩, ?_⟩
  · exact (hmem 3 3).2 ⟨hfront 3 (by decide), none, rfl⟩
  · exact (hmem 7 1).2 ⟨hfront 1 (by decide), none, rfl⟩
  · exact hliteral 2 "to".toList (hfront 2 (by decide)) rfl
  · apply hrenumber
    intro m hm n hn hmn
    have hm := hslots m hm
    have hn := hslots n hn
    show m - 2 < n - 2
    omega

end Statement

end MenuLine
