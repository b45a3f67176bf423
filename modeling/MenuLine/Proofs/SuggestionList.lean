import MenuLine.Proofs.ByteOrder
import MenuLine.Proofs.Suggestion
import Mathlib.Data.List.Sort

/-!
# The list of suggestions

Every word that is proposed is suggested once, in the order of its bytes:
`Completion.suggest_eq_map`. Two words are never written the same, so no two
lines are the same either, and nothing depends on the order of the descriptions
or on how often one is listed. A description without any words to offer can be
left out as well, unless it counts as one that finishes the last typed word:
`Completion.suggest_insert`.
-/

namespace MenuLine

/-- In a list in order, what comes again comes again right away, so without its
repetitions the list is strictly in order. -/
theorem pairwise_eraseReps [BEq α] [LawfulBEq α] {r : α → α → Prop}
    (hantisymm : ∀ a b, r a b → r b a → a = b) {l : List α} (h : l.Pairwise r) :
    l.eraseReps.Pairwise fun a b => r a b ∧ a ≠ b := by
  cases l with
  | nil => exact .nil
  | cons a l =>
      induction l generalizing a with
      | nil => exact List.pairwise_singleton _ a
      | cons b l ih =>
          obtain ⟨ha, hl⟩ := List.pairwise_cons.1 h
          rw [eraseReps_cons_cons]
          by_cases hab : a = b
          · subst hab
            rw [if_pos (beq_self_eq_true a)]
            exact ih a hl
          · rw [if_neg (by simpa using hab)]
            refine List.pairwise_cons.2 ⟨fun c hc => ?_, ih b hl⟩
            have hac : r a c := ha c (mem_eraseReps.1 hc)
            refine ⟨hac, ?_⟩
            rintro rfl
            rcases List.mem_cons.1 (mem_eraseReps.1 hc) with heq | hc
            · exact hab heq
            · have hba : r b a := (List.pairwise_cons.1 hl).1 a hc
              exact hab (hantisymm a b (ha b List.mem_cons_self) hba)

namespace Text

theorem le_antisymm {t u : Text} (htu : le t u = true) (hut : le u t = true) : t = u := by
  apply Classical.byContradiction
  intro hne
  exact (before_of_le htu hne).asymm (before_of_le hut (Ne.symm hne))

theorem spaced_concat (words : List Text) (w : Text) :
    spaced (words ++ [w]) = words.flatMap (· ++ [' ']) ++ w := by
  induction words with
  | nil => simp
  | cons v words ih => simp [spaced_cons, ih]

end Text

namespace Quoted

/-- A word that is written as it stands holds no quote. -/
theorem requote_ne_of_isPlain {w v : Text} (hw : isPlain w = true) (hv : isPlain v ≠ true) :
    requote w ≠ requote v := by
  rw [requote_of_isPlain hw, requote, if_neg hv, quote]
  rintro rfl
  have hquote := (isPlain_iff.1 hw).2 '"' List.mem_cons_self
  cases hquote

theorem requote_injective {w v : Text} (h : requote w = requote v) : w = v := by
  by_cases hw : isPlain w = true
  · by_cases hv : isPlain v = true
    · rwa [requote_of_isPlain hw, requote_of_isPlain hv] at h
    · exact absurd h (requote_ne_of_isPlain hw hv)
  · by_cases hv : isPlain v = true
    · exact absurd h.symm (requote_ne_of_isPlain hv hw)
    · rw [requote, requote, if_neg hw, if_neg hv] at h
      have hunquote := congrArg unquote h
      rwa [unquote_quote, unquote_quote] at hunquote

end Quoted

namespace Completion

variable {lookup : Text → Option Completer} {typed : List Segment}
  {descriptions others : List Statement}

/-- A word that some description offers: one that finishes the last typed word
if there is any such offer, otherwise one that may follow. -/
structure Proposed (lookup : Text → Option Completer) (typed : List Segment)
    (descriptions : List Statement) (word : Text) : Prop where
  nonempty : word ≠ []
  offered : ∃ d ∈ descriptions, word ∈ (offer lookup typed d).2 ∧
    (offer lookup typed d).1 = if finishing lookup typed descriptions then .part else .whole

/-- The line that a word is suggested as. -/
def lineOf (kept : List Text) (word : Text) : Text :=
  kept.flatMap (· ++ [' ']) ++ Quoted.requote word

theorem lineOf_injective {kept : List Text} {w v : Text} (h : lineOf kept w = lineOf kept v) :
    w = v :=
  Quoted.requote_injective (List.append_cancel_left h)

/-- The words that are proposed, as often as they are offered and in the order
of the descriptions. -/
def proposals (lookup : Text → Option Completer) (typed : List Segment)
    (descriptions : List Statement) : List Text :=
  let offers := (descriptions.map (offer lookup typed)).filter fun o => o.1 != .none
  let chosen := offers.filter fun o => !finishing lookup typed descriptions || o.1 == .part
  (chosen.flatMap Prod.snd).filter (! ·.isEmpty)

theorem extent_eq_iff {e : Extent} {finishing : Bool} (h : e = .part → finishing = true) :
    e = (if finishing then .part else .whole) ↔ e ≠ .none ∧ (finishing = false ∨ e = .part) := by
  cases e <;> cases finishing <;> simp_all

theorem mem_proposals_iff {word : Text} :
    word ∈ proposals lookup typed descriptions ↔ Proposed lookup typed descriptions word := by
  have hextent {d : Statement} (hd : d ∈ descriptions) :
      (offer lookup typed d).1 =
          (if finishing lookup typed descriptions then .part else .whole) ↔
        (offer lookup typed d).1 ≠ .none ∧
          (finishing lookup typed descriptions = false ∨ (offer lookup typed d).1 = .part) := by
    apply extent_eq_iff
    intro hpart
    exact List.any_eq_true.2 ⟨d, hd, by simp [hpart]⟩
  simp only [proposals, List.mem_filter, List.mem_flatMap, List.mem_map, Bool.not_eq_true',
    List.isEmpty_eq_false_iff, bne_iff_ne, Bool.or_eq_true, beq_iff_eq]
  constructor
  · rintro ⟨⟨o, ⟨⟨⟨d, hd, rfl⟩, hnone⟩, hpart⟩, hword⟩, hne⟩
    exact ⟨hne, d, hd, hword, (hextent hd).2 ⟨hnone, hpart⟩⟩
  · rintro ⟨hne, d, hd, hword, hoffer⟩
    obtain ⟨hnone, hpart⟩ := (hextent hd).1 hoffer
    exact ⟨⟨_, ⟨⟨⟨d, hd, rfl⟩, hnone⟩, hpart⟩, hword⟩, hne⟩

theorem suggest_eq_map_sorted (lookup : Text → Option Completer) (typed : List Segment)
    (descriptions : List Statement) :
    suggest lookup typed descriptions =
      ((proposals lookup typed descriptions).mergeSort Text.le).eraseReps.map
        (lineOf (kept lookup typed descriptions)) := by
  unfold suggest
  simp only [any_offers]
  apply List.map_congr_left
  intro word _
  exact Text.spaced_concat _ _

theorem pairwise_before (words : List Text) :
    (words.mergeSort Text.le).eraseReps.Pairwise Text.Before := by
  have hsorted := List.pairwise_mergeSort Text.le_trans Text.le_total words
  have hstrict := pairwise_eraseReps (fun _ _ => Text.le_antisymm) hsorted
  exact hstrict.imp fun h => Text.before_of_le h.1 h.2

theorem exists_suggest_eq_map (lookup : Text → Option Completer) (typed : List Segment)
    (descriptions : List Statement) :
    ∃ words : List Text, (∀ word, word ∈ words ↔ Proposed lookup typed descriptions word) ∧
      words.Pairwise Text.Before ∧
      suggest lookup typed descriptions =
        words.map (lineOf (kept lookup typed descriptions)) := by
  refine ⟨((proposals lookup typed descriptions).mergeSort Text.le).eraseReps, ?_,
    pairwise_before _, suggest_eq_map_sorted lookup typed descriptions⟩
  intro word
  rw [mem_eraseReps, List.mem_mergeSort, mem_proposals_iff]

theorem finishing_congr (h : ∀ d, d ∈ others ↔ d ∈ descriptions) :
    finishing lookup typed others = finishing lookup typed descriptions := by
  rw [Bool.eq_iff_iff]
  simp only [finishing, List.any_eq_true, h]

/-- What is proposed depends on which descriptions there are and on nothing
else, and the order of the bytes leaves one list of it. -/
theorem suggest_congr (h : ∀ d, d ∈ others ↔ d ∈ descriptions) :
    suggest lookup typed others = suggest lookup typed descriptions := by
  obtain ⟨words, hwords, hsorted, hsuggest⟩ := exists_suggest_eq_map lookup typed descriptions
  obtain ⟨words', hwords', hsorted', hsuggest'⟩ := exists_suggest_eq_map lookup typed others
  have hfinishing : finishing lookup typed others = finishing lookup typed descriptions :=
    finishing_congr h
  have hkept : kept lookup typed others = kept lookup typed descriptions := by
    rw [kept, hfinishing, kept]
  have hproposed (word : Text) :
      Proposed lookup typed others word ↔ Proposed lookup typed descriptions word := by
    constructor
    · rintro ⟨hne, d, hd, hword, hoffer⟩
      exact ⟨hne, d, (h d).1 hd, hword, hfinishing ▸ hoffer⟩
    · rintro ⟨hne, d, hd, hword, hoffer⟩
      exact ⟨hne, d, (h d).2 hd, hword, hfinishing ▸ hoffer⟩
  have hantisymm : Std.Antisymm Text.Before := ⟨fun _ _ htu hut => absurd hut htu.asymm⟩
  have hirrefl : Std.Irrefl Text.Before := ⟨fun _ htt => htt.asymm htt⟩
  have heq : words' = words := by
    apply hsorted'.eq_of_mem_iff hsorted
    intro word
    rw [hwords', hwords, hproposed]
  rw [hsuggest', hsuggest, hkept, heq]

/-- The list of suggestions: a line for each word that is proposed, in the order
of the bytes of these words, none of them twice; the descriptions may come in
any order, and any number of times. -/
theorem suggest_eq_map (lookup : Text → Option Completer) (typed : List Segment)
    (descriptions : List Statement) :
    (∃ words : List Text, (∀ word, word ∈ words ↔ Proposed lookup typed descriptions word) ∧
      words.Pairwise Text.Before ∧
      suggest lookup typed descriptions =
        words.map (lineOf (kept lookup typed descriptions))) ∧
    (suggest lookup typed descriptions).Nodup ∧
    ∀ others, (∀ d, d ∈ others ↔ d ∈ descriptions) →
      suggest lookup typed others = suggest lookup typed descriptions := by
  obtain ⟨words, hwords, hsorted, hsuggest⟩ := exists_suggest_eq_map lookup typed descriptions
  refine ⟨⟨words, hwords, hsorted, hsuggest⟩, ?_, fun others h => suggest_congr h⟩
  have hne : words.Nodup := by
    apply hsorted.imp
    rintro t u h rfl
    exact h.asymm h
  rw [hsuggest]
  exact hne.map fun _ _ => lineOf_injective

/-- A word that two descriptions offer, and others that a completer knows, in
another order and with one description twice. -/
theorem suggest_eq_map_two_orders :
    let lookup : Text → Option Completer := fun name =>
      if name = "voice".toList then some fun _ => ["aloud".toList, "a b".toList, "Z".toList]
      else none
    let typed : List Segment := ["say", "a"].map fun w => .literal w.toList
    let aloud : Statement := ⟨["say", "aloud"].map fun w => .literal w.toList, [], none⟩
    let voice : Statement :=
      ⟨[.literal "say".toList, .placeholder (.numbered 1) (some "voice".toList)], [], none⟩
    suggest lookup typed [aloud, voice] =
        ["say Z".toList, "say \"a b\"".toList, "say aloud".toList] ∧
      (∀ d, d ∈ [voice, aloud, voice] ↔ d ∈ [aloud, voice]) ∧
      suggest lookup typed [voice, aloud, voice] = suggest lookup typed [aloud, voice] := by
  intro lookup typed aloud voice
  have hsame : ∀ d, d ∈ [voice, aloud, voice] ↔ d ∈ [aloud, voice] := by
    intro d
    simp only [List.mem_cons, List.not_mem_nil, or_false]
    constructor
    · rintro (rfl | rfl | rfl)
      · exact .inr rfl
      · exact .inl rfl
      · exact .inr rfl
    · rintro (rfl | rfl)
      · exact .inr (.inl rfl)
      · exact .inl rfl
  exact ⟨by cbv, hsame, (suggest_eq_map lookup typed [aloud, voice]).2.2 _ hsame⟩

/-! ## Descriptions with nothing to offer -/

/-- The typed words have reached a wildcard, and its completer knows no word
for the last of them. -/
@[mk_iff]
structure Exhausted (lookup : Text → Option Completer) (typed : List Segment)
    (d : Statement) : Prop where
  reached : d.segments.length ≤ typed.length
  unknown : ∃ wildcard ∈ d.segments.find? Segment.isWildcard, ∃ last ∈ typed.getLast?,
    candidates lookup wildcard last.text = some []

theorem offerTarget_ne_part_nil (found : Option (Extent × Text × Segment)) :
    offerTarget lookup found ≠ (.part, []) := by
  unfold offerTarget
  split
  · simp [nothing]
  · simp
  · split
    · simp [nothing]
    · simp [nothing]
    · next hne _ =>
        rintro heq
        exact hne (congrArg Prod.snd heq)

theorem offerWildcard_eq_part_nil_iff {wildcard : Segment} {seed : Text} :
    offerWildcard lookup wildcard seed = (.part, []) ↔
      candidates lookup wildcard seed = some [] := by
  unfold offerWildcard
  cases candidates lookup wildcard seed with
  | none => simp [nothing]
  | some found =>
      by_cases h : found = [seed]
      · simp [h, nothing]
      · simp [h]

/-- Only at a wildcard can an offer be empty and still count as one that
finishes the last typed word. -/
theorem offer_eq_part_nil_iff {d : Statement} :
    offer lookup typed d = (.part, []) ↔ Exhausted lookup typed d := by
  rw [exhausted_iff]
  obtain ⟨segments, filters, output⟩ := d
  cases segments with
  | nil => simp [nothing]
  | cons s ss =>
      unfold offer
      cases typed.getLast? with
      | none => cases s <;> simp [nothing]
      | some last =>
          cases hfind : (s :: ss).find? Segment.isWildcard with
          | none =>
              simp only [hfind]
              split
              · simp [nothing]
              · simpa using offerTarget_ne_part_nil _
          | some wildcard =>
              simp only [hfind]
              split
              · next hle =>
                  have hlt : ss.length < typed.length := hle
                  simpa [hlt] using offerWildcard_eq_part_nil_iff
              · next hle =>
                  have hge : ¬ ss.length < typed.length := hle
                  simpa [hge] using offerTarget_ne_part_nil (target typed (s :: ss))

theorem finishing_insert (front back : List Statement) (d : Statement) :
    finishing lookup typed (front ++ d :: back) =
      ((offer lookup typed d).1 == .part || finishing lookup typed (front ++ back)) := by
  simp only [finishing, List.any_append, List.any_cons]
  cases front.any fun d => (offer lookup typed d).1 == .part <;> simp

theorem proposals_insert {front back : List Statement} {d : Statement}
    (hd : (offer lookup typed d).2 = [])
    (hfinishing : finishing lookup typed (front ++ d :: back) =
      finishing lookup typed (front ++ back)) :
    proposals lookup typed (front ++ d :: back) = proposals lookup typed (front ++ back) := by
  simp only [proposals, hfinishing, List.map_append, List.map_cons, List.filter_append,
    List.filter_cons, List.flatMap_append]
  split
  · simp only [List.filter_cons]
    split
    · simp [hd]
    · rfl
  · rfl

theorem suggest_insert_of_finishing {front back : List Statement} {d : Statement}
    (hd : (offer lookup typed d).2 = [])
    (hfinishing : finishing lookup typed (front ++ d :: back) =
      finishing lookup typed (front ++ back)) :
    suggest lookup typed (front ++ d :: back) = suggest lookup typed (front ++ back) := by
  rw [suggest_eq_map_sorted, suggest_eq_map_sorted, proposals_insert hd hfinishing, kept,
    hfinishing, kept]

/-- Nothing is proposed if whatever finishes the last typed word has no words to
offer. -/
theorem proposals_eq_nil (hfinishing : finishing lookup typed descriptions = true)
    (h : ∀ d ∈ descriptions, (offer lookup typed d).1 = .part → (offer lookup typed d).2 = []) :
    proposals lookup typed descriptions = [] := by
  apply List.eq_nil_iff_forall_not_mem.2
  intro word hword
  obtain ⟨-, d, hd, hoffered, hextent⟩ := mem_proposals_iff.1 hword
  rw [hfinishing, if_pos rfl] at hextent
  rw [h d hd hextent] at hoffered
  exact absurd hoffered List.not_mem_nil

theorem suggest_insert_of_exhausted {front back : List Statement} {d : Statement}
    (hd : offer lookup typed d = (.part, []))
    (hfinishing : finishing lookup typed (front ++ back) = false) :
    suggest lookup typed (front ++ d :: back) = [] := by
  have hall : finishing lookup typed (front ++ d :: back) = true := by
    rw [finishing_insert, hd]
    rfl
  have hnone : proposals lookup typed (front ++ d :: back) = [] := by
    apply proposals_eq_nil hall
    intro e he hpart
    have hmem : e ∈ front ++ back ∨ e = d := by
      simp only [List.mem_append, List.mem_cons] at he ⊢
      tauto
    rcases hmem with hmem | rfl
    · have hany : finishing lookup typed (front ++ back) = true :=
        List.any_eq_true.2 ⟨e, hmem, by simp [hpart]⟩
      rw [hany] at hfinishing
      cases hfinishing
    · rw [hd]
  rw [suggest_eq_map_sorted, hnone, List.mergeSort_nil]
  rfl

/-- A description that has no words to offer makes no difference to what is
suggested, wherever it stands. There is one exception: if the typed words have
reached its wildcard, whose completer knows no word, then it stands against the
offers of words that may follow, and unless some other description finishes the
last typed word nothing is suggested at all. -/
theorem suggest_insert (lookup : Text → Option Completer) (typed : List Segment)
    (front back : List Statement) {d : Statement} (hd : (offer lookup typed d).2 = []) :
    (¬ (Exhausted lookup typed d ∧ finishing lookup typed (front ++ back) = false) →
      suggest lookup typed (front ++ d :: back) = suggest lookup typed (front ++ back)) ∧
    (Exhausted lookup typed d → finishing lookup typed (front ++ back) = false →
      suggest lookup typed (front ++ d :: back) = []) := by
  constructor
  · intro h
    apply suggest_insert_of_finishing hd
    rw [finishing_insert]
    cases hfinishing : finishing lookup typed (front ++ back) with
    | true => simp
    | false =>
        have hne : (offer lookup typed d).1 ≠ .part := by
          intro hpart
          have hexhausted := offer_eq_part_nil_iff.1 (Prod.ext hpart hd)
          exact h ⟨hexhausted, hfinishing⟩
        simpa using hne
  · intro hexhausted hfinishing
    exact suggest_insert_of_exhausted (offer_eq_part_nil_iff.2 hexhausted) hfinishing

/-- A description that fits none of the typed words, and one with a wildcard for
which nothing is known. -/
theorem suggest_insert_two_commands :
    let lookup : Text → Option Completer := fun name =>
      if name = "name".toList then some fun seed => ["Todd".toList].filter (seed.isPrefixOf ·)
      else none
    let typed : List Segment := ["say", "greet"].map fun w => .literal w.toList
    let greet : Statement := ⟨[.literal "say".toList, .literal "greet".toList,
      .placeholder (.numbered 1) (some "name".toList)], [], none⟩
    let bye : Statement := ⟨[.literal "bye".toList], [], none⟩
    let hello : Statement :=
      ⟨[.literal "hello".toList, .placeholder .wildcard (some "name".toList)], [], none⟩
    (offer lookup typed bye).2 = [] ∧ (offer lookup typed hello).2 = [] ∧
      suggest lookup typed [bye, greet] = suggest lookup typed [greet] ∧
      suggest lookup typed [bye, greet, hello] = [] := by
  intro lookup typed greet bye hello
  have hbye : (offer lookup typed bye).2 = [] := by cbv
  have hhello : (offer lookup typed hello).2 = [] := by cbv
  have hfinishing : finishing lookup typed [greet] = false := by cbv
  have hoffer : offer lookup typed hello = (.part, []) := by cbv
  have hexhausted : Exhausted lookup typed hello := offer_eq_part_nil_iff.1 hoffer
  have hnot : ¬ Exhausted lookup typed bye := by
    rintro ⟨-, wildcard, hwildcard, -⟩
    cases hwildcard
  have hbefore := (suggest_insert lookup typed [] [greet] hbye).1 fun h => hnot h.1
  have hbehind := (suggest_insert lookup typed [bye, greet] [] hhello).2 hexhausted (by cbv)
  exact ⟨hbye, hhello, hbefore, hbehind⟩

/-- A description whose completer knows no word takes away what another one
offers. -/
theorem suggest_withheld :
    let lookup : Text → Option Completer := fun name =>
      if name = "name".toList then some fun seed => ["Todd".toList].filter (seed.isPrefixOf ·)
      else none
    let typed : List Segment := ["say", "greet"].map fun w => .literal w.toList
    let greet : Statement := ⟨[.literal "say".toList, .literal "greet".toList,
      .placeholder (.numbered 1) (some "name".toList)], [], none⟩
    let hello : Statement :=
      ⟨[.literal "hello".toList, .placeholder .wildcard (some "name".toList)], [], none⟩
    (offer lookup typed hello).2 = [] ∧
      suggest lookup typed ([greet] ++ []) = ["say greet Todd".toList] ∧
      suggest lookup typed ([greet] ++ hello :: []) = [] := by
  refine ⟨by cbv, by cbv, by cbv⟩

end Completion

end MenuLine
