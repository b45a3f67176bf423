import MenuLine.Completion
import MenuLine.Proofs.Describing
import MenuLine.Proofs.Matching

/-!
# Completion agrees with matching

A statement that matches a description is completed along that description at
every place on the way: the next word of the description is offered behind a
literal word, and the words of its completer at a placeholder. The main
statement is `Completion.offer_of_score`.
-/

namespace MenuLine

/-- A typed word that a word of a description takes on its own. -/
inductive Segment.Fits : Segment → Segment → Prop where
  | literal (t : Text) : Fits (.literal t) (.literal t)
  | numbered (typed : Segment) (n : Nat) (completion : Option Text) :
      Fits typed (.placeholder (.numbered n) completion)

open Segment (Fits)

namespace Statement

theorem fits_of_matchSegment {u d : Segment} (hd : d.isWildcard = false)
    (h : matchSegment u d ≠ .none) : Fits u d := by
  cases d with
  | literal t =>
      have hu : u = .literal t := (matchSegment_ne_none_iff hd u).1 h t rfl
      rw [hu]
      exact .literal t
  | placeholder slot completion =>
      cases slot with
      | numbered n => exact .numbered u n completion
      | wildcard => cases hd

/-- Up to its wildcard, a description takes the words of a statement that
matches it one by one. -/
theorem fits_take {us ds : List Segment} (h : matchSegments us ds ≠ .none) {k : ℕ}
    (hus : k ≤ us.length) (hds : k ≤ ds.length)
    (hwildcard : ∀ d ∈ ds.take k, d.isWildcard = false) :
    List.Forall₂ Fits (us.take k) (ds.take k) := by
  induction k generalizing us ds with
  | zero => simp
  | succ k ih =>
      cases us with
      | nil => simp at hus
      | cons u us =>
          cases ds with
          | nil => simp at hds
          | cons d ds =>
              have hd : d.isWildcard = false := hwildcard d (by simp)
              have hmatch : MatchTier.weaker (matchSegment u d) (matchSegments us ds) ≠ .none := by
                simpa [matchSegments, hd] using h
              rw [ne_eq, MatchTier.weaker_eq_none_iff, not_or] at hmatch
              obtain ⟨hfirst, hrest⟩ := hmatch
              have hlater : ∀ d ∈ ds.take k, d.isWildcard = false :=
                fun e he => hwildcard e (List.mem_cons_of_mem d he)
              exact .cons (fits_of_matchSegment hd hfirst)
                (ih hrest (Nat.le_of_succ_le_succ hus) (Nat.le_of_succ_le_succ hds) hlater)

theorem matchSegments_of_score {u d : Statement} (h : score u d ≠ .none) :
    d.segments.length ≤ u.segments.length ∧ matchSegments u.segments d.segments ≠ .none := by
  obtain ⟨hless, hmore⟩ := length_of_score h
  exact ⟨hless, score_of_length hless hmore ▸ h⟩

/-- The first words of a description, up to its wildcard if it has one. -/
def UpTo (d : Statement) (k : ℕ) : Prop :=
  k ≤ d.segments.length ∧ ∀ w, d.wildcardPosition = some w → k ≤ w

theorem UpTo.isWildcard {d : Statement} {k : ℕ} (h : d.UpTo k) :
    ∀ s ∈ d.segments.take k, s.isWildcard = false := by
  intro s hs
  obtain ⟨i, hi, rfl⟩ := List.mem_iff_getElem.1 hs
  have hik : i < k := by
    rw [List.length_take] at hi
    omega
  rw [List.getElem_take]
  cases hw : d.wildcardPosition with
  | none =>
      have hnone := List.findIdx?_eq_none_iff.1 hw
      exact hnone _ (List.getElem_mem _)
  | some w =>
      obtain ⟨_, _, hbefore⟩ := List.findIdx?_eq_some_iff_getElem.1 hw
      have hlt : i < w := Nat.lt_of_lt_of_le hik (h.2 w hw)
      simpa using hbefore i hlt

/-- In front of its wildcard a description has words left. -/
theorem UpTo.lt_of_wildcard {d : Statement} {k : ℕ} (h : d.UpTo k)
    (hw : d.hasWildcard = true) : k < d.segments.length := by
  obtain ⟨w, hw⟩ := Option.isSome_iff_exists.1 hw
  obtain ⟨hlt, -⟩ := List.findIdx?_eq_some_iff_getElem.1 hw
  exact Nat.lt_of_le_of_lt (h.2 w hw) hlt

end Statement

namespace Completion

open Statement (UpTo)

theorem extent_ne_none {u d : Segment} (h : Fits u d) : extent u d ≠ .none := by
  cases h with
  | literal t => simp [extent]
  | numbered => simp [extent]

theorem target_cons_cons {u d : Segment} (h : extent u d ≠ .none) (v : Segment)
    (us ds : List Segment) : target (u :: v :: us) (d :: ds) = target (v :: us) ds :=
  if_neg h

theorem target_literal (t : Text) (rest : List Segment) :
    target [.literal t] (.literal t :: rest) = rest.head?.map fun next => (.whole, [], next) := by
  simp [target, extent]

/-- Words that fit, whole or in part, are left behind. -/
theorem target_append {line front : List Segment}
    (h : List.Forall₂ (fun u d => extent u d ≠ .none) line front) (u d : Segment)
    (rest : List Segment) : target (line ++ [u]) (front ++ d :: rest) = target [u] (d :: rest) := by
  induction h with
  | nil => rfl
  | @cons v e line front hextent _ ih =>
      obtain ⟨w, ws, hline⟩ : ∃ w ws, line ++ [u] = w :: ws :=
        List.exists_cons_of_ne_nil (by simp)
      rw [hline] at ih
      rw [List.cons_append, List.cons_append, hline, target_cons_cons hextent, ih]

/-- The words that the completer of this name knows. -/
def known (lookup : Text → Option Completer) (completion : Option Text) (seed : Text) :
    List Text :=
  match completion.bind lookup with
  | none => []
  | some completer => completer seed

/-- Words are offered unless there are none. -/
def offering (extent : Extent) (words : List Text) : Offer :=
  if words = [] then nothing else (extent, words)

variable {lookup : Text → Option Completer}

theorem offerTarget_placeholder (e : Extent) (seed : Text) (slot : Slot)
    (completion : Option Text) :
    offerTarget lookup (some (e, seed, .placeholder slot completion)) =
      offering e (known lookup completion seed) := by
  have hcandidates : candidates lookup (.placeholder slot completion) seed =
      (completion.bind lookup).map (· seed) := rfl
  rw [offerTarget, hcandidates, known, offering]
  cases completion.bind lookup with
  | none => rfl
  | some completer =>
      cases hwords : completer seed with
      | nil => simp [hwords]
      | cons w ws => simp [hwords]

theorem offer_nil {d : Statement} {t : Text} {rest : List Segment}
    (hd : d.segments = .literal t :: rest) : offer lookup [] d = (.whole, [t]) := by
  simp [offer, hd]

/-- In a line that is not too long the last typed word decides; from a
description with a wildcard it leaves at least one word. -/
theorem offer_of_length {d : Statement} {line : List Segment} {u : Segment}
    (hle : (line ++ [u]).length ≤ d.segments.length)
    (hlt : d.hasWildcard = true → (line ++ [u]).length < d.segments.length) :
    offer lookup (line ++ [u]) d = offerTarget lookup (target (line ++ [u]) d.segments) := by
  have hlast : (line ++ [u]).getLast? = some u := by simp
  have hwords : d.segments ≠ [] := by
    intro hnil
    rw [hnil] at hle
    simp at hle
  rw [Statement.hasWildcard_eq_any] at hlt
  obtain ⟨segments, filters, output⟩ := d
  obtain ⟨s, ss, rfl⟩ := List.exists_cons_of_ne_nil hwords
  rw [offer, hlast]
  cases hfind : (s :: ss).find? Segment.isWildcard with
  | none =>
      simp only [hfind]
      rw [if_neg (Nat.not_lt.2 hle)]
  | some wildcard =>
      have hany : (s :: ss).any Segment.isWildcard = true :=
        List.any_eq_true.2 ⟨wildcard, List.mem_of_find?_eq_some hfind, List.find?_some hfind⟩
      simp only [hfind]
      rw [if_neg (Nat.not_le.2 (hlt hany))]

/-- What is offered behind the first words of a statement that matches depends
on the last of them alone. -/
theorem offer_take (lookup : Text → Option Completer) {u d : Statement}
    (hscore : Statement.score u d ≠ .none) {j : ℕ} (hupto : d.UpTo (j + 1)) :
    ∃ typed described, u.segments[j]? = some typed ∧ d.segments[j]? = some described ∧
      Fits typed described ∧
      offer lookup (u.segments.take (j + 1)) d =
        offerTarget lookup (target [typed] (described :: d.segments.drop (j + 1))) := by
  obtain ⟨hlength, hmatch⟩ := Statement.matchSegments_of_score hscore
  have hd : j < d.segments.length := hupto.1
  have hu : j < u.segments.length := Nat.lt_of_lt_of_le hd hlength
  have hfits := Statement.fits_take hmatch hu hd hupto.isWildcard
  have htyped : u.segments.take (j + 1) = u.segments.take j ++ [u.segments[j]] :=
    (List.take_append_getElem hu).symm
  have hdescribed : d.segments.take (j + 1) = d.segments.take j ++ [d.segments[j]] :=
    (List.take_append_getElem hd).symm
  have hsplit : d.segments =
      d.segments.take j ++ d.segments[j] :: d.segments.drop (j + 1) := by
    rw [List.append_cons, ← hdescribed, List.take_append_drop]
  have hearlier : ∀ s ∈ d.segments.take j, s.isWildcard = false := by
    intro s hs
    refine hupto.isWildcard s ?_
    rw [hdescribed]
    exact List.mem_append_left _ hs
  have hfront := Statement.fits_take hmatch hu.le hd.le hearlier
  have hlast : Fits u.segments[j] d.segments[j] := by
    have hget := hfits.get (i := j) (by rw [List.length_take]; omega)
      (by rw [List.length_take]; omega)
    simpa using hget
  have hline : (u.segments.take j ++ [u.segments[j]]).length = j + 1 := by
    rw [← htyped, List.length_take_of_le hu]
  refine ⟨u.segments[j], d.segments[j], List.getElem?_eq_getElem hu, List.getElem?_eq_getElem hd,
    hlast, ?_⟩
  calc
    offer lookup (u.segments.take (j + 1)) d =
        offerTarget lookup (target (u.segments.take j ++ [u.segments[j]]) d.segments) := by
      rw [htyped]
      rw [← hline] at hupto
      exact offer_of_length hupto.1 hupto.lt_of_wildcard
    _ = _ := by
      -- Only on the left: the right side has the segments of `d` in it as well.
      conv_lhs => rw [hsplit]
      rw [target_append (hfront.imp fun _ _ => extent_ne_none)]

/-- A statement that matches a description is completed along it. At the
beginning of the line the first word is offered. Behind a literal word the next
one is offered as it stands, a placeholder offers what its completer knows
without any letter, and at the end there is nothing to offer. A word at a
placeholder is finished by the completer of that placeholder. -/
theorem offer_of_score {source : Text} {d : Description} (hd : Description.parse source = .ok d)
    {u : Statement} (hscore : Statement.score u d.statement ≠ .none)
    (lookup : Text → Option Completer) {k : ℕ} (hk : k ≤ d.segments.length)
    (hwildcard : ∀ w, d.statement.wildcardPosition = some w → k ≤ w) :
    (k = 0 → ∃ t, d.segments[0]? = some (.literal t) ∧
      offer lookup (u.segments.take k) d.statement = (.whole, [t])) ∧
    ∀ j, k = j + 1 →
      (∀ t, d.segments[j]? = some (.literal t) →
        (k = d.segments.length → offer lookup (u.segments.take k) d.statement = nothing) ∧
        (∀ next, d.segments[k]? = some (.literal next) →
          offer lookup (u.segments.take k) d.statement = (.part, [next])) ∧
        ∀ slot completion, d.segments[k]? = some (.placeholder slot completion) →
          offer lookup (u.segments.take k) d.statement =
            offering .whole (known lookup completion [])) ∧
      (∀ slot completion, d.segments[j]? = some (.placeholder slot completion) →
        (∃ n, slot = .numbered n) ∧ ∃ typed, u.segments[j]? = some typed ∧
          offer lookup (u.segments.take k) d.statement =
            offering .part (known lookup completion typed.text)) := by
  have hupto : d.statement.UpTo k := ⟨hk, hwildcard⟩
  constructor
  · rintro rfl
    obtain ⟨t, rest, hsegments, -⟩ := Description.exists_literal_cons hd
    exact ⟨t, by simp [hsegments], offer_nil hsegments⟩
  · rintro j rfl
    obtain ⟨typed, described, htyped, hdescribed, hfits, hoffer⟩ :=
      offer_take lookup hscore hupto
    constructor
    · intro t ht
      cases hdescribed.symm.trans ht
      cases hfits
      rw [target_literal] at hoffer
      have hrest : (d.statement.segments.drop (j + 1)).head? = d.segments[j + 1]? :=
        List.head?_drop
      rw [hrest] at hoffer
      refine ⟨fun hend => ?_, fun next hnext => ?_, fun slot completion hslot => ?_⟩
      · rw [hoffer, List.getElem?_eq_none hend.ge]
        rfl
      · rw [hoffer, hnext]
        rfl
      · rw [hoffer, hslot]
        exact offerTarget_placeholder .whole [] slot completion
    · intro slot completion hslot
      cases hdescribed.symm.trans hslot
      cases hfits with
      | numbered _ n =>
          refine ⟨⟨n, rfl⟩, typed, htyped, ?_⟩
          rw [hoffer]
          exact offerTarget_placeholder .part typed.text _ _

/-- The place of a wildcard behind a word and a placeholder in front of it. -/
theorem offer_of_score_wildcard :
    let source := "go $1:menu to $*:menu".toList
    let described : Statement :=
      ⟨[.literal "go".toList, .placeholder (.numbered 1) (some "menu".toList),
        .literal "to".toList, .placeholder .wildcard (some "menu".toList)], [], none⟩
    let typed : Statement := ⟨["go", "x", "to", "y", "z"].map fun w => .literal w.toList, [], none⟩
    let lookup : Text → Option Completer := fun _ => some fun seed => [seed ++ ['a'], seed]
    Description.parse source = .ok ⟨source, described⟩ ∧
      Statement.score typed described = .wildcard ∧ described.wildcardPosition = some 3 ∧
      offer lookup (typed.segments.take 0) described = (.whole, ["go".toList]) ∧
      offer lookup (typed.segments.take 1) described = (.whole, ["a".toList, []]) ∧
      offer lookup (typed.segments.take 2) described = (.part, ["xa".toList, "x".toList]) ∧
      offer lookup (typed.segments.take 3) described = (.whole, ["a".toList, []]) := by
  intro source described typed lookup
  have hd : Description.parse source = .ok ⟨source, described⟩ := by
    simp only [source, described]
    cbv
  have hscore : Statement.score typed described = .wildcard := by
    simp only [typed, described]
    cbv
  have hne : Statement.score typed described ≠ .none := by simp [hscore]
  have hposition : described.wildcardPosition = some 3 := rfl
  have hoffer {k : ℕ} (hk : k ≤ 3) :=
    offer_of_score hd hne lookup (k := k) (hk.trans (by decide)) fun w hw => by
      cases hposition.symm.trans hw
      exact hk
  obtain ⟨t, ht, hzero⟩ := (hoffer (Nat.zero_le 3)).1 rfl
  cases ht
  have hone := ((hoffer (Nat.le_add_left 1 2)).2 0 rfl).1 "go".toList rfl
  obtain ⟨-, w, hw, htwo⟩ := ((hoffer (Nat.le_add_left 2 1)).2 1 rfl).2 _ _ rfl
  cases hw
  have hthree := ((hoffer (Nat.le_refl 3)).2 2 rfl).1 "to".toList rfl
  exact ⟨hd, hscore, hposition, hzero, hone.2.2 _ _ rfl, htwo, hthree.2.2 _ _ rfl⟩

end Completion

end MenuLine
