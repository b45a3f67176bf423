import MenuLine.Match

/-!
# What a score says

A description is compared with a statement word by word and as far as its first
wildcard. `Statement.none_lt_score_iff` says without this comparison which statements
score: those with enough words, and with the literal words of the description at
their places. The tier depends on the description alone.
-/

namespace MenuLine

namespace MatchTier

theorem none_lt_iff {t : MatchTier} : none < t ↔ t ≠ none := by
  cases t <;> decide

theorem weaker_eq_none_iff {a b : MatchTier} : weaker a b = none ↔ a = none ∨ b = none := by
  cases a <;> cases b <;> decide

end MatchTier

namespace Statement

/-- A position in front of the first wildcard. -/
def InFront (ds : List Segment) (i : Nat) : Prop :=
  ∀ w, ds.findIdx? Segment.isWildcard = some w → i < w

theorem not_inFront_wildcard {d : Segment} (hd : d.isWildcard = true) (ds : List Segment)
    (i : Nat) : ¬ InFront (d :: ds) i := by
  intro h
  have hzero : i < 0 := h 0 (by simp [List.findIdx?_cons, hd])
  exact Nat.not_lt_zero i hzero

theorem inFront_zero {d : Segment} (hd : d.isWildcard = false) (ds : List Segment) :
    InFront (d :: ds) 0 := by
  intro w hw
  rw [List.findIdx?_cons, hd] at hw
  obtain ⟨v, -, rfl⟩ := Option.map_eq_some_iff.1 hw
  exact Nat.succ_pos v

theorem inFront_succ {d : Segment} (hd : d.isWildcard = false) (ds : List Segment) (i : Nat) :
    InFront (d :: ds) (i + 1) ↔ InFront ds i := by
  constructor
  · intro h w hw
    have hsucc : i + 1 < w + 1 := h (w + 1) (by simp [List.findIdx?_cons, hd, hw])
    exact Nat.lt_of_succ_lt_succ hsucc
  · intro h w hw
    rw [List.findIdx?_cons, hd] at hw
    obtain ⟨v, hv, rfl⟩ := Option.map_eq_some_iff.1 hw
    exact Nat.succ_lt_succ (h v hv)

/-- What a description asks of a statement. -/
structure Meets (typed description : Statement) : Prop where
  sameLength : description.wildcardPosition = none →
    typed.segments.length = description.segments.length
  enough : ∀ w, description.wildcardPosition = some w →
    description.segments.length ≤ typed.segments.length
  literal : ∀ i t, InFront description.segments i →
    description.segments[i]? = some (.literal t) → typed.segments[i]? = some (.literal t)

/-- The tier of the statements that meet a description. -/
def tier (description : Statement) : MatchTier :=
  if description.hasWildcard then .wildcard
  else if description.hasNumbered then .substitution
  else .exact

/-! ## Along the words -/

theorem matchSegment_ne_none_iff {d : Segment} (hd : d.isWildcard = false) (u : Segment) :
    matchSegment u d ≠ .none ↔ ∀ t, d = .literal t → u = .literal t := by
  cases d with
  | literal t =>
      by_cases hu : u = .literal t
      · simp [matchSegment, hu]
      · simp [matchSegment, hu]
  | placeholder slot completion =>
      cases slot with
      | numbered n => simp [matchSegment]
      | wildcard => cases hd

theorem matchSegments_ne_none_iff {us ds : List Segment} (hlength : ds.length ≤ us.length) :
    matchSegments us ds ≠ .none ↔
      ∀ i t, InFront ds i → ds[i]? = some (.literal t) → us[i]? = some (.literal t) := by
  induction ds generalizing us with
  | nil => cases us <;> simp [matchSegments]
  | cons d ds ih =>
      cases us with
      | nil => simp at hlength
      | cons u us =>
          cases hd : d.isWildcard with
          | true =>
              have hmatch : matchSegments (u :: us) (d :: ds) ≠ .none := by
                simp [matchSegments, hd]
              refine iff_of_true hmatch fun i t hi => ?_
              exact absurd hi (not_inFront_wildcard hd ds i)
          | false =>
              have hmatch : matchSegments (u :: us) (d :: ds) ≠ .none ↔
                  matchSegment u d ≠ .none ∧ matchSegments us ds ≠ .none := by
                simp [matchSegments, hd, MatchTier.weaker_eq_none_iff]
              rw [hmatch, matchSegment_ne_none_iff hd, ih (Nat.le_of_succ_le_succ hlength)]
              constructor
              · rintro ⟨hfirst, hrest⟩ i t hi ht
                cases i with
                | zero => exact congrArg some (hfirst t (Option.some.inj ht))
                | succ i => exact hrest i t ((inFront_succ hd ds i).1 hi) ht
              · intro h
                constructor
                · intro t ht
                  exact Option.some.inj (h 0 t (inFront_zero hd ds) (congrArg some ht))
                · intro i t hi ht
                  exact h (i + 1) t ((inFront_succ hd ds i).2 hi) ht

/-- The tier of one word of a description that is no wildcard. -/
theorem matchSegment_eq {u d : Segment} (hd : d.isWildcard = false)
    (h : matchSegment u d ≠ .none) :
    matchSegment u d = if d.isNumbered then .substitution else .exact := by
  cases d with
  | literal t =>
      have hu : u = .literal t := (matchSegment_ne_none_iff hd u).1 h t rfl
      simp [matchSegment, hu, Segment.isNumbered]
  | placeholder slot completion =>
      cases slot with
      | numbered n => rfl
      | wildcard => cases hd

theorem matchSegments_eq {us ds : List Segment} (hlength : ds.length ≤ us.length)
    (h : matchSegments us ds ≠ .none) :
    matchSegments us ds =
      if ds.any Segment.isWildcard then .wildcard
      else if ds.any Segment.isNumbered then .substitution
      else .exact := by
  induction ds generalizing us with
  | nil => cases us <;> rfl
  | cons d ds ih =>
      cases us with
      | nil => simp at hlength
      | cons u us =>
          cases hd : d.isWildcard with
          | true => simp [matchSegments, hd]
          | false =>
              have hmatch : matchSegments (u :: us) (d :: ds) =
                  MatchTier.weaker (matchSegment u d) (matchSegments us ds) := by
                simp [matchSegments, hd]
              rw [hmatch, ne_eq, MatchTier.weaker_eq_none_iff, not_or] at h
              rw [hmatch, matchSegment_eq hd h.1, ih (Nat.le_of_succ_le_succ hlength) h.2,
                List.any_cons, List.any_cons, hd]
              -- The weaker one of the first word and of all others.
              cases d.isNumbered <;> cases ds.any Segment.isWildcard <;>
                cases ds.any Segment.isNumbered <;> rfl

/-! ## Whole statements -/

theorem hasWildcard_eq_any (d : Statement) :
    d.hasWildcard = d.segments.any Segment.isWildcard :=
  List.findIdx?_isSome

theorem score_of_length {u d : Statement} (hless : d.segments.length ≤ u.segments.length)
    (hmore : d.hasWildcard = false → u.segments.length = d.segments.length) :
    score u d = matchSegments u.segments d.segments := by
  have hnotMore : (d.segments.length < u.segments.length && !d.hasWildcard) = false := by
    cases hw : d.hasWildcard with
    | true => simp
    | false => simp [hmore hw]
  rw [score, if_neg (Nat.not_lt.2 hless), hnotMore]
  rfl

theorem length_of_score {u d : Statement} (h : score u d ≠ .none) :
    d.segments.length ≤ u.segments.length ∧
      (d.hasWildcard = false → u.segments.length = d.segments.length) := by
  unfold score at h
  split at h
  · exact absurd rfl h
  · next hless =>
      have hle := Nat.not_lt.1 hless
      refine ⟨hle, fun hw => ?_⟩
      split at h
      · exact absurd rfl h
      · next hmore =>
          simp only [hw, Bool.not_false, Bool.and_true, decide_eq_true_eq] at hmore
          exact Nat.le_antisymm (Nat.not_lt.1 hmore) hle

theorem score_ne_none_iff (u d : Statement) : score u d ≠ .none ↔ Meets u d := by
  constructor
  · intro h
    obtain ⟨hless, hmore⟩ := length_of_score h
    rw [score_of_length hless hmore] at h
    refine ⟨fun hw => hmore (by simp [hasWildcard, hw]), fun _ _ => hless, ?_⟩
    exact (matchSegments_ne_none_iff hless).1 h
  · intro h
    have hmore : d.hasWildcard = false → u.segments.length = d.segments.length := by
      intro hw
      apply h.sameLength
      simpa [hasWildcard] using hw
    have hless : d.segments.length ≤ u.segments.length := by
      cases hw : d.wildcardPosition with
      | none => exact Nat.le_of_eq (h.sameLength hw).symm
      | some w => exact h.enough w hw
    rw [score_of_length hless hmore]
    exact (matchSegments_ne_none_iff hless).2 h.literal

theorem score_eq_tier {u d : Statement} (h : score u d ≠ .none) : score u d = d.tier := by
  obtain ⟨hless, hmore⟩ := length_of_score h
  rw [score_of_length hless hmore] at h ⊢
  rw [matchSegments_eq hless h, tier, hasWildcard_eq_any]
  rfl

theorem tier_eq_exact_iff (d : Statement) :
    d.tier = .exact ↔ ∀ s ∈ d.segments, ∃ t, s = .literal t := by
  have hkind (s : Segment) :
      (∃ t, s = .literal t) ↔ s.isWildcard = false ∧ s.isNumbered = false := by
    cases s with
    | literal t => simp [Segment.isNumbered]
    | placeholder slot completion => cases slot <;> simp [Segment.isNumbered]
  have htier : d.tier = .exact ↔ d.hasWildcard = false ∧ d.hasNumbered = false := by
    unfold tier
    cases d.hasWildcard <;> cases d.hasNumbered <;> decide
  rw [htier, hasWildcard_eq_any, hasNumbered, List.any_eq_false, List.any_eq_false]
  constructor
  · rintro ⟨hwildcard, hnumbered⟩ s hs
    exact (hkind s).2 ⟨Bool.eq_false_iff.2 (hwildcard s hs), Bool.eq_false_iff.2 (hnumbered s hs)⟩
  · intro h
    constructor
    · intro s hs
      exact Bool.eq_false_iff.1 ((hkind s).1 (h s hs)).1
    · intro s hs
      exact Bool.eq_false_iff.1 ((hkind s).1 (h s hs)).2

/-- Literal words alone fit nothing but themselves. -/
theorem score_eq_exact_iff (u d : Statement) :
    score u d = .exact ↔ (∀ s ∈ d.segments, ∃ t, s = .literal t) ∧ u.segments = d.segments := by
  have hscore : score u d = .exact ↔ d.tier = .exact ∧ Meets u d := by
    rw [← score_ne_none_iff]
    constructor
    · intro h
      have hne : score u d ≠ .none := by simp [h]
      exact ⟨(score_eq_tier hne).symm.trans h, hne⟩
    · rintro ⟨htier, hne⟩
      exact (score_eq_tier hne).trans htier
  rw [hscore, tier_eq_exact_iff]
  refine and_congr_right fun hliteral => ?_
  have hnone : d.wildcardPosition = none := by
    rw [wildcardPosition, List.findIdx?_eq_none_iff]
    intro s hs
    obtain ⟨t, rfl⟩ := hliteral s hs
    rfl
  have hfront (i : Nat) : InFront d.segments i := by
    intro w hw
    cases hnone.symm.trans hw
  constructor
  · intro h
    apply List.ext_getElem (h.sameLength hnone)
    intro i hu hd
    obtain ⟨t, ht⟩ := hliteral _ (List.getElem_mem hd)
    have hword := h.literal i t (hfront i) (by rw [List.getElem?_eq_getElem hd, ht])
    rw [List.getElem?_eq_getElem hu] at hword
    exact (Option.some.inj hword).trans ht.symm
  · intro h
    constructor
    · intro _
      rw [h]
    · intro w hw
      cases hnone.symm.trans hw
    · intro i t _ ht
      rw [h, ht]

/-- A statement scores if it meets the description: it has a word for every word
of it, and no more than those if it has no wildcard, and the literal words in
front of the wildcard at the same places. The score is then the tier that the
description has by its placeholders. -/
theorem none_lt_score_iff (u d : Statement) :
    (.none < score u d ↔ Meets u d) ∧ (.none < score u d → score u d = d.tier) := by
  rw [MatchTier.none_lt_iff]
  exact ⟨score_ne_none_iff u d, score_eq_tier⟩

-- The words behind a wildcard are counted and not compared.
example : score ⟨["go", "x", "y"].map fun w => .literal w.toList, [], none⟩
    ⟨[.literal "go".toList, .placeholder .wildcard none, .literal "now".toList], [], none⟩ =
      .wildcard := by
  decide

end Statement

end MenuLine
