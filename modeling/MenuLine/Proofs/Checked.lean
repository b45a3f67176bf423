import MenuLine.Checked
import MenuLine.Proofs.Agreement

/-!
# No lookup misses

Counting positions comes to the same as going along the lists, so no position
is ever looked up that is not there: `Checked.ok_of_every_input`. A position is
the length of what has been left behind, and the inductions go along the rest.
-/

namespace MenuLine

namespace Checked

variable {α β : Type u}

/-! ## Lookups -/

@[simp] theorem bind_ok (a : α) (f : α → Checked β) : Except.bind (.ok a) f = f a := rfl

theorem get_eq_ok {l : List α} {i : Nat} {a : α} (h : l[i]? = some a) : get l i = .ok a := by
  simp only [get, h]

@[simp] theorem get_append (front : List α) (a : α) (rest : List α) :
    get (front ++ a :: rest) front.length = .ok a :=
  get_eq_ok (by simp)

@[simp] theorem set_append (front : List α) (a b : α) :
    set (front ++ [a]) front.length b = .ok (front ++ [b]) := by
  simp [set]

@[simp] theorem lastPosition_append (front : List α) (a : α) (rest : List α) :
    lastPosition (front ++ a :: rest) = .ok (front.length + rest.length) := by
  have hlength : (front ++ a :: rest).length = front.length + rest.length + 1 := by
    simp [Nat.add_assoc]
  rw [lastPosition, hlength]

/-! ## Matching -/

theorem exact_weaker (t : MatchTier) : MatchTier.weaker .exact t = t := by
  cases t <;> rfl

theorem weaker_exact (t : MatchTier) : MatchTier.weaker t .exact = t := by
  cases t <;> rfl

theorem weaker_assoc (a b c : MatchTier) :
    MatchTier.weaker (MatchTier.weaker a b) c = MatchTier.weaker a (MatchTier.weaker b c) := by
  cases a <;> cases b <;> cases c <;> rfl

theorem weaker_none_right (t : MatchTier) : MatchTier.weaker t .none = .none := by
  cases t <;> rfl

theorem weaker_substitution {t : MatchTier} (h : .substitution ≤ t) :
    MatchTier.weaker t .substitution = if t = .exact then .substitution else t := by
  revert h
  cases t <;> decide

theorem substitution_le_weaker {t : MatchTier} (h : .substitution ≤ t) :
    .substitution ≤ MatchTier.weaker t .substitution := by
  revert h
  cases t <;> decide

theorem matchSegment_ne_wildcard {d : Segment} (hd : d.isWildcard = false) (u : Segment) :
    Statement.matchSegment u d ≠ .wildcard := by
  cases d with
  | literal t =>
      rw [Statement.matchSegment]
      split <;> simp
  | placeholder slot completion =>
      cases slot with
      | numbered n => simp [Statement.matchSegment]
      | wildcard => cases hd

/-- The first wildcard stands where the words before it end. -/
theorem findIdx?_append_wildcard {front : List Segment}
    (hfront : ∀ s ∈ front, s.isWildcard = false) {d : Segment} (hd : d.isWildcard = true)
    (ds : List Segment) :
    (front ++ d :: ds).findIdx? Segment.isWildcard = some front.length := by
  have hnone : front.findIdx? Segment.isWildcard = none := List.findIdx?_eq_none_iff.2 hfront
  simp [List.findIdx?_append, hnone, List.findIdx?_cons, hd]

theorem not_any_findIdx? {words : List Segment} {i : Nat}
    (h : ∀ s ∈ words.take (i + 1), s.isWildcard = false) :
    (words.findIdx? Segment.isWildcard).any (· ≤ i) = false := by
  cases hw : words.findIdx? Segment.isWildcard with
  | none => rfl
  | some w =>
      obtain ⟨hlt, hwildcard, -⟩ := List.findIdx?_eq_some_iff_getElem.1 hw
      rw [Option.any_some, decide_eq_false_iff_not]
      intro hle
      have hmem : words[w] ∈ words.take (i + 1) :=
        List.mem_take_iff_getElem.2 ⟨w, by omega, rfl⟩
      rw [h _ hmem] at hwildcard
      cases hwildcard

/-- By induction on the typed words that are left. No wildcard has been left
behind, so the tier so far is that of literal words and numbered placeholders. -/
theorem scoreFrom_append {front ds us : List Segment}
    (hfront : ∀ s ∈ front, s.isWildcard = false) (hless : ds.length ≤ us.length)
    (hmore : ds.any Segment.isWildcard = false → us.length = ds.length) {tier : MatchTier}
    (htier : .substitution ≤ tier) :
    scoreFrom (front ++ ds) ((front ++ ds).findIdx? Segment.isWildcard) front.length tier us =
      .ok (MatchTier.weaker tier (Statement.matchSegments us ds)) := by
  induction us generalizing front ds tier with
  | nil =>
      have hnil : ds = [] := List.length_eq_zero_iff.1 (Nat.le_zero.1 hless)
      rw [hnil, Statement.matchSegments_nil, weaker_exact]
      rfl
  | cons u us ih =>
      cases ds with
      | nil =>
          have hlength := hmore rfl
          simp at hlength
      | cons d ds =>
          cases hd : d.isWildcard with
          | true =>
              -- The typed words that are left are the wildcard's, the weakest of all matches.
              have htop : MatchTier.weaker tier .wildcard = .wildcard := by
                revert htier
                cases tier <;> decide
              rw [scoreFrom, findIdx?_append_wildcard hfront hd, Option.any_some,
                decide_eq_true (Nat.le_refl _), if_pos rfl, Statement.matchSegments, if_pos hd,
                htop]
          | false =>
              have hbehind : ∀ s ∈ front ++ [d], s.isWildcard = false := by
                intro s hs
                rcases List.mem_append.1 hs with hs | hs
                · exact hfront s hs
                · rwa [List.mem_singleton.1 hs]
              have htake : (front ++ d :: ds).take (front.length + 1) = front ++ [d] := by
                simp [List.take_append, List.take_of_length_le]
              have hany : ((front ++ d :: ds).findIdx? Segment.isWildcard).any
                  (· ≤ front.length) = false := not_any_findIdx? (by rwa [htake])
              have hmatch : Statement.matchSegments (u :: us) (d :: ds) =
                  MatchTier.weaker (Statement.matchSegment u d)
                    (Statement.matchSegments us ds) := by
                simp [Statement.matchSegments, hd]
              have hrest {t : MatchTier} (ht : .substitution ≤ t) :
                  scoreFrom (front ++ d :: ds)
                      ((front ++ d :: ds).findIdx? Segment.isWildcard) (front.length + 1) t us =
                    .ok (MatchTier.weaker t (Statement.matchSegments us ds)) := by
                have hlater := ih hbehind (Nat.le_of_succ_le_succ hless)
                  (fun hnone => Nat.succ.inj (hmore (by simp [hd, hnone]))) ht
                simpa using hlater
              rw [scoreFrom, hany, hmatch, ← weaker_assoc]
              simp only [Bool.false_eq_true, if_false, get_append, bind_ok]
              cases hsegment : Statement.matchSegment u d with
              | none => rw [weaker_none_right, MatchTier.weaker_none]
              | wildcard => exact absurd hsegment (matchSegment_ne_wildcard hd u)
              | substitution =>
                  rw [← weaker_substitution htier]
                  exact hrest (substitution_le_weaker htier)
              | exact =>
                  rw [weaker_exact]
                  exact hrest htier

theorem score_eq (typed description : Statement) :
    score typed description = .ok (typed.score description) := by
  have hwildcard : description.wildcardPosition.isNone = !description.hasWildcard :=
    Option.not_isSome _ |>.symm
  by_cases hmore : (description.segments.length < typed.segments.length &&
      description.wildcardPosition.isNone) = true
  · rw [score, if_pos hmore]
    rw [hwildcard] at hmore
    rw [Statement.score, hmore]
    simp
  · by_cases hless : typed.segments.length < description.segments.length
    · rw [score, if_neg hmore, if_pos hless, Statement.score, if_pos hless]
    · have hle := Nat.not_lt.1 hless
      have hsame : description.hasWildcard = false →
          typed.segments.length = description.segments.length := by
        intro hnone
        rw [hwildcard, hnone] at hmore
        simp only [Bool.not_false, Bool.and_true, decide_eq_true_eq] at hmore
        omega
      have hfrom : scoreFrom description.segments description.wildcardPosition 0 .exact
          typed.segments = .ok (MatchTier.weaker .exact
            (Statement.matchSegments typed.segments description.segments)) := by
        rw [Statement.hasWildcard_eq_any] at hsame
        exact scoreFrom_append (List.forall_mem_nil _) hle hsame (by decide)
      rw [score, if_neg hmore, if_neg hless, Statement.score_of_length hle hsame, hfrom,
        exact_weaker]

/-! ## Completion -/

open Completion (Extent Offer extent nothing candidates target offerTarget
  target_cons_cons)

variable {lookup : Text → Option Completer} {typed line words : List Segment} {position : Nat}

theorem offerAt_eq (lookup : Text → Option Completer) {d : Segment}
    (hd : words[position]? = some d) {seed : Text}
    (hseed : (typed[position]?.map Segment.text).getD [] = seed) {e : Extent} (he : e ≠ .none) :
    offerAt lookup typed words position e = .ok (offerTarget lookup (some (e, seed, d))) := by
  rw [offerAt, get_eq_ok hd]
  cases d with
  | literal t => rfl
  | placeholder slot completion =>
      simp only [Except.map, hseed, offerTarget]
      cases candidates lookup (.placeholder slot completion) seed with
      | none => rfl
      | some found =>
          cases found with
          | nil => rfl
          | cons w ws => simp [he]

/-- At the last typed word. -/
theorem offerReached_append (lookup : Text → Option Completer) {pre front : List Segment}
    (hpre : pre.length = front.length) (r : Nat × Extent) (u d : Segment) (ds : List Segment) :
    (reach (front ++ d :: ds) front.length r [u]).bind
        (offerReached lookup (pre ++ [u]) (front ++ d :: ds)) =
      .ok (offerTarget lookup (target [u] (d :: ds))) := by
  simp only [reach, get_append, bind_ok]
  cases hextent : extent u d with
  | none => simp [target, hextent, offerReached, offerTarget]
  | part =>
      have hd : (front ++ d :: ds)[front.length]? = some d := by simp
      have hseed : (((pre ++ [u])[front.length]?).map Segment.text).getD [] = u.text := by
        simp [← hpre]
      have hat := offerAt_eq lookup hd hseed (e := .part) (by decide)
      simpa [target, hextent, offerReached] using hat
  | whole =>
      cases ds with
      | nil => simp [target, hextent, offerReached, offerTarget]
      | cons next ds =>
          have hnext : (front ++ d :: next :: ds)[front.length + 1]? = some next := by
            simp
          -- Nothing has been typed at the next place, so the seed is empty.
          have hseed : (((pre ++ [u])[front.length + 1]?).map Segment.text).getD [] = [] := by
            simp [← hpre]
          have hat := offerAt_eq lookup hnext hseed (e := .whole) (by decide)
          simpa [target, hextent, offerReached] using hat

/-- By induction on the typed words that are left. -/
theorem offerReached_reach (lookup : Text → Option Completer) {pre front us ds : List Segment}
    (hpre : pre.length = front.length) (hus : us ≠ []) (hle : us.length ≤ ds.length)
    (r : Nat × Extent) :
    (reach (front ++ ds) front.length r us).bind
        (offerReached lookup (pre ++ us) (front ++ ds)) =
      .ok (offerTarget lookup (target us ds)) := by
  induction us generalizing pre front ds r with
  | nil => exact absurd rfl hus
  | cons u us ih =>
      cases ds with
      | nil => simp at hle
      | cons d ds =>
          cases us with
          | nil => exact offerReached_append lookup hpre r u d ds
          | cons v us =>
              rw [reach, get_append, bind_ok]
              by_cases hextent : extent u d = .none
              · have htarget : target (u :: v :: us) (d :: ds) = none := if_pos hextent
                rw [if_pos hextent, htarget]
                rfl
              · rw [if_neg hextent, target_cons_cons hextent]
                have hlength : (pre ++ [u]).length = (front ++ [d]).length := by
                  simp [hpre]
                have hlater := ih hlength (by simp) (Nat.le_of_succ_le_succ hle)
                  (front.length, extent u d)
                simpa using hlater

/-- Candidates are compared with the seed by the first of them. -/
theorem offerWildcard_eq {wildcard : Segment} (hposition : words[position]? = some wildcard)
    (seed : Text) :
    offerWildcard lookup words position seed =
      .ok (Completion.offerWildcard lookup wildcard seed) := by
  rw [offerWildcard, get_eq_ok hposition, bind_ok, Completion.offerWildcard]
  cases candidates lookup wildcard seed with
  | none => rfl
  | some found =>
      -- The first candidate is looked up only where there is exactly one.
      match found with
      | [] => rfl
      | [w] =>
          by_cases hw : w = seed
          · simp [get, Except.map, hw]
          · simp [get, Except.map, hw]
      | w :: v :: ws => simp

theorem getElem?_wildcardPosition {d : Statement} {w : Nat} (h : d.wildcardPosition = some w) :
    ∃ wildcard, d.segments[w]? = some wildcard ∧
      d.segments.find? Segment.isWildcard = some wildcard := by
  obtain ⟨hlt, hwildcard, hbefore⟩ := List.findIdx?_eq_some_iff_getElem.1 h
  refine ⟨d.segments[w], List.getElem?_eq_getElem hlt, ?_⟩
  refine List.find?_eq_some_iff_getElem.2 ⟨hwildcard, w, hlt, rfl, ?_⟩
  intro i hi
  simpa using hbefore i hi

theorem offerAlong_eq (lookup : Text → Option Completer) (hline : line ≠ [])
    (hle : line.length ≤ words.length) :
    offerAlong lookup line words = .ok (offerTarget lookup (target line words)) :=
  @offerReached_reach lookup [] [] line words rfl hline hle (0, .none)

theorem offerAlong_nil (lookup : Text → Option Completer) (slot : Slot) (completion : Option Text)
    (ds : List Segment) :
    offerAlong lookup [] (.placeholder slot completion :: ds) = .ok nothing := by
  have hzero : get (.placeholder slot completion :: ds) 0 =
      .ok (Segment.placeholder slot completion) := rfl
  have hat : offerAt lookup [] (.placeholder slot completion :: ds) 0 .none = .ok nothing := by
    simp only [offerAt, hzero, Except.map]
    split <;> simp
  have hend : (Extent.none = .whole) = False := by simp
  simp only [offerAlong, reach, bind_ok, offerReached, hend, if_false]
  exact hat

theorem offer_eq (lookup : Text → Option Completer) (line : List Segment) (d : Statement) :
    offer lookup line d = .ok (Completion.offer lookup line d) := by
  obtain ⟨words, filters, output⟩ := d
  cases words with
  | nil => simp [offer]
  | cons first rest =>
      cases hlast : line.getLast? with
      | none =>
          obtain rfl := List.getLast?_eq_none_iff.1 hlast
          cases first with
          | literal t => rfl
          | placeholder slot completion =>
              simp only [offer, List.head?_cons, List.length_nil, Nat.not_lt_zero, if_false,
                List.length_cons, offerAlong_nil]
              cases Statement.wildcardPosition _ <;> rfl
      | some last =>
          have hline : line ≠ [] := by
            rintro rfl
            cases hlast
          have halong (hle : line.length ≤ (first :: rest).length) :=
            offerAlong_eq lookup hline hle
          obtain ⟨u, us, rfl⟩ := List.exists_cons_of_ne_nil hline
          rw [Completion.offer, hlast]
          cases hposition : Statement.wildcardPosition ⟨first :: rest, filters, output⟩ with
          | none =>
              have hfind : (first :: rest).find? Segment.isWildcard = none :=
                List.find?_eq_none.2 fun s hs => by
                  simp [List.findIdx?_eq_none_iff.1 hposition s hs]
              simp only [offer, List.head?_cons, hposition, hfind]
              by_cases hmore : (first :: rest).length < (u :: us).length
              · rw [if_pos hmore, if_pos hmore]
              · rw [if_neg hmore, if_neg hmore]
                exact halong (Nat.not_lt.1 hmore)
          | some w =>
              obtain ⟨wildcard, hget, hfind⟩ := getElem?_wildcardPosition hposition
              simp only [offer, List.head?_cons, hposition, hfind, hlast]
              by_cases hless : (first :: rest).length ≤ (u :: us).length
              · rw [if_pos hless, if_pos hless]
                exact offerWildcard_eq hget last.text
              · rw [if_neg hless, if_neg hless]
                exact halong (Nat.not_le.1 hless).le

theorem overwrite_append (front : List Text) (x : Text) (words : List Text) :
    overwrite (front ++ [x]) front.length words =
      .ok (words.map fun word => Text.spaced (front ++ [Quoted.requote word])) := by
  induction words generalizing x with
  | nil => rfl
  | cons word words ih =>
      rw [overwrite, set_append, bind_ok, ih]
      rfl

/-- There is a last place, and if there is anything to write there it is the one
behind the words that are kept. -/
theorem working_eq {offers : List Offer} (hoffers : ∀ o ∈ offers, o.1 ≠ .none)
    (typed : List Text) :
    ∃ front last,
      (if (!(offers.any fun o => o.1 == .part) && offers.any fun o => o.1 == .whole) ||
          typed.isEmpty then typed ++ [[]] else typed) = front ++ [last] ∧
      (offers ≠ [] →
        front = if offers.any fun o => o.1 == .part then typed.dropLast else typed) := by
  cases hpart : offers.any fun o => o.1 == .part with
  | true =>
      rcases List.eq_nil_or_concat typed with rfl | ⟨front, last, rfl⟩
      · exact ⟨[], [], by simp⟩
      · exact ⟨front, last, by simp⟩
  | false =>
      cases hwhole : offers.any fun o => o.1 == .whole with
      | true => exact ⟨typed, [], by simp⟩
      | false =>
          have hnil : offers = [] := by
            refine List.eq_nil_iff_forall_not_mem.2 fun o ho => ?_
            have hnotPart := List.any_eq_false.1 hpart o ho
            have hnotWhole := List.any_eq_false.1 hwhole o ho
            have hnotNone := hoffers o ho
            cases htier : o.1 <;> simp_all
          rcases List.eq_nil_or_concat typed with rfl | ⟨front, last, rfl⟩
          · exact ⟨[], [], by simp [hnil]⟩
          · exact ⟨front, last, by simp [hnil]⟩

theorem suggest_eq (lookup : Text → Option Completer) (line : List Segment)
    (descriptions : List Statement) :
    suggest lookup line descriptions = .ok (Completion.suggest lookup line descriptions) := by
  have hoffer : offer lookup line = fun d => .ok (Completion.offer lookup line d) :=
    funext (offer_eq lookup line)
  have hoffers : descriptions.mapM (offer lookup line) =
      .ok (descriptions.map (Completion.offer lookup line)) := by
    rw [hoffer]
    exact List.mapM_pure
  rw [suggest, hoffers, bind_ok, Completion.suggest]
  generalize hnamed : (descriptions.map (Completion.offer lookup line)).filter
    (fun o => o.1 != .none) = offers
  have hsome : ∀ o ∈ offers, o.1 ≠ .none := by
    intro o ho
    rw [← hnamed] at ho
    simpa using (List.mem_filter.1 ho).2
  have hchosen : (offers.filter fun o => !((offers.any fun o => o.1 == .part) && o.1 == .whole)) =
      offers.filter fun o => !(offers.any fun o => o.1 == .part) || o.1 == .part := by
    refine List.filter_congr fun o ho => ?_
    have hnotNone := hsome o ho
    cases htier : o.1 <;> simp_all
  obtain ⟨front, last, hworking, hfront⟩ :=
    working_eq hsome (line.map fun s => Quoted.requote s.text)
  simp only [hchosen, hworking, lastPosition_append, bind_ok, List.length_nil, Nat.add_zero,
    overwrite_append]
  cases offers with
  | nil =>
      have hnone : ([] : List Text).eraseReps = [] := rfl
      simp [hnone]
  | cons o offers => rw [hfront (List.cons_ne_nil o offers)]

/-- Whatever is typed and whatever the descriptions and the completers are, no
position is looked up that is not there and no number goes below zero: matching,
one description's offer and all suggestions end, and they are what going along
the lists gives. -/
theorem ok_of_every_input (lookup : Text → Option Completer) (typed : Statement)
    (line : List Segment) (d : Statement) (descriptions : List Statement) :
    score typed d = .ok (typed.score d) ∧
      offer lookup line d = .ok (Completion.offer lookup line d) ∧
      suggest lookup line descriptions = .ok (Completion.suggest lookup line descriptions) :=
  ⟨score_eq typed d, offer_eq lookup line d, suggest_eq lookup line descriptions⟩

/-- The lengths have to be compared first: a word too many, and no wildcard to
take it, finds nothing at its position. -/
example (t : Text) (u : Segment) :
    scoreFrom [.literal t] none 0 .exact [.literal t, u] = .error (.position 1 1) := by
  simp [scoreFrom, get, Except.bind, Statement.matchSegment]

end Checked

end MenuLine
