import MenuLine.Proofs.Agreement
import MenuLine.Proofs.Suggestion

/-!
# The word that is being typed

A description finishes the last typed word if it has a literal word at its
place that begins with it, and takes the typed words in front of it. What other
descriptions offer, and whatever completers know, does not come in the way of
that: `Completion.mem_suggest_of_begun`.
-/

namespace MenuLine

/-- A word at its place in a description: it is the literal word there, or a
placeholder stands there. -/
inductive Segment.Accepts (typed : Segment) : Segment → Prop where
  | literal : Accepts typed (.literal typed.text)
  | placeholder (slot : Slot) (completion : Option Text) :
      Accepts typed (.placeholder slot completion)

namespace Completion

/-- The word that a description has at the place of the last typed word, which
that word is a proper beginning of. A description with a wildcard has to be
longer than what was typed. -/
structure Begun (front : List Segment) (last : Segment) (d : Statement) (word : Text) :
    Prop where
  place : d.segments[front.length]? = some (.literal word)
  more : d.hasWildcard = true → front.length + 1 < d.segments.length
  front : ∀ (i : ℕ) (typed described : Segment), front[i]? = some typed →
    d.segments[i]? = some described → typed.Accepts described
  opening : last.text <+: word
  unfinished : last.text ≠ word

variable {lookup : Text → Option Completer} {front : List Segment} {last : Segment}
  {d : Statement} {word : Text}

theorem extent_ne_none_of_accepts {typed described : Segment} (h : typed.Accepts described) :
    extent typed described ≠ .none := by
  cases h with
  | literal => simp [extent]
  | placeholder => simp [extent]

theorem extent_of_begins (hbegins : last.text <+: word) (hne : last.text ≠ word) :
    extent last (.literal word) = .part := by
  rw [extent, if_neg (Ne.symm hne), if_pos (List.isPrefixOf_iff_prefix.2 hbegins)]

namespace Begun

theorem lt_length (h : Begun front last d word) : front.length < d.segments.length :=
  (List.getElem?_eq_some_iff.1 h.place).1

theorem segments_eq (h : Begun front last d word) :
    d.segments = d.segments.take front.length ++
      .literal word :: d.segments.drop (front.length + 1) := by
  obtain ⟨hlt, hword⟩ := List.getElem?_eq_some_iff.1 h.place
  rw [← hword, List.append_cons, List.take_append_getElem hlt, List.take_append_drop]

theorem forall₂_extent (h : Begun front last d word) :
    List.Forall₂ (fun u d => extent u d ≠ .none) front (d.segments.take front.length) := by
  have hlength : (d.segments.take front.length).length = front.length :=
    List.length_take_of_le h.lt_length.le
  refine List.forall₂_iff_get.2 ⟨hlength.symm, ?_⟩
  intro i hi hi'
  have htyped : front[i]? = some front[i] := List.getElem?_eq_getElem hi
  have hdescribed : d.segments[i]? = some (d.segments.take front.length)[i] := by
    rw [← List.getElem?_eq_getElem hi', List.getElem?_take_of_lt hi]
  exact extent_ne_none_of_accepts (h.front i _ _ htyped hdescribed)

theorem target_eq (h : Begun front last d word) :
    target (front ++ [last]) d.segments = some (.part, last.text, .literal word) := by
  rw [h.segments_eq, target_append h.forall₂_extent, target,
    extent_of_begins h.opening h.unfinished]

/-- The description offers this word and nothing else. -/
theorem offer_eq (lookup : Text → Option Completer) (h : Begun front last d word) :
    offer lookup (front ++ [last]) d = (.part, [word]) := by
  have hlength : (front ++ [last]).length = front.length + 1 := by simp
  have hle : (front ++ [last]).length ≤ d.segments.length := by
    rw [hlength]
    exact h.lt_length
  have hlt : d.hasWildcard = true → (front ++ [last]).length < d.segments.length := by
    rw [hlength]
    exact h.more
  rw [offer_of_length hle hlt, h.target_eq]
  rfl

theorem word_ne_nil (h : Begun front last d word) : word ≠ [] := by
  intro hnil
  have hlast : last.text = [] := List.prefix_nil.1 (hnil ▸ h.opening)
  exact h.unfinished (hlast.trans hnil.symm)

end Begun

/-- What is kept of a line that some description finishes. -/
theorem kept_of_finishing {descriptions : List Statement}
    (h : finishing lookup (front ++ [last]) descriptions = true) :
    kept lookup (front ++ [last]) descriptions = front.map fun s => Quoted.requote s.text := by
  rw [kept, h, if_pos rfl, List.map_append, List.map_singleton, List.dropLast_concat]

/-- The last typed word is finished by every description that can finish it,
whatever the other descriptions are and whatever the completers know: the
typed words in front of it and the finished word make one of the lines that are
suggested. -/
theorem mem_suggest_of_begun (lookup : Text → Option Completer)
    {descriptions : List Statement} (hd : d ∈ descriptions) (h : Begun front last d word) :
    Text.spaced ((front.map fun s => Quoted.requote s.text) ++ [Quoted.requote word]) ∈
      suggest lookup (front ++ [last]) descriptions := by
  have hoffer := h.offer_eq lookup
  have hpart : (offer lookup (front ++ [last]) d).1 = .part := congrArg Prod.fst hoffer
  -- One description that finishes the word is enough for the last one to be dropped from all
  -- lines and for offers of next words to be left out.
  have hfinishing : finishing lookup (front ++ [last]) descriptions = true :=
    List.any_eq_true.2 ⟨d, hd, by simp [hpart]⟩
  refine mem_suggest_iff.2 ⟨d, hd, word, ?_, h.word_ne_nil, ?_, fun _ => hpart, ?_⟩
  · rw [hoffer]
    exact List.mem_singleton_self word
  · rw [hpart]
    simp
  · rw [kept_of_finishing hfinishing]

/-- A word behind a wildcard, next to a description that offers what comes
after the typed words and to one that the typed words have left behind. -/
theorem mem_suggest_of_begun_behind_wildcard :
    let lookup : Text → Option Completer := fun _ => some fun _ => ["never".toList]
    let front : List Segment := ["copy", "a b"].map fun w => .literal w.toList
    let last : Segment := .literal "t".toList
    let copy : Statement := ⟨[.literal "copy".toList, .placeholder .wildcard none,
      .literal "to".toList, .placeholder (.numbered 1) none], [], none⟩
    let next : Statement := ⟨[.literal "copy".toList, .placeholder (.numbered 1) none,
      .literal "t".toList, .placeholder (.numbered 2) (some "file".toList)], [], none⟩
    let any : Statement := ⟨[.literal "x".toList, .placeholder .wildcard none], [], none⟩
    Begun front last copy "to".toList ∧
      (offer lookup (front ++ [last]) next).1 = .whole ∧
      "copy \"a b\" to".toList ∈ suggest lookup (front ++ [last]) [next, any, copy] := by
  intro lookup front last copy next any
  have hbegun : Begun front last copy "to".toList := by
    refine ⟨rfl, by decide, ?_, by decide, by decide⟩
    intro i typed described htyped hdescribed
    match i with
    | 0 =>
        cases htyped
        cases hdescribed
        exact .literal
    | 1 =>
        cases htyped
        cases hdescribed
        exact .placeholder _ _
    | i + 2 => cases htyped
  have hcopy : copy ∈ [next, any, copy] := by simp
  exact ⟨hbegun, by cbv, mem_suggest_of_begun lookup hcopy hbegun⟩

end Completion

end MenuLine
