import MenuLine.Proofs.HalfTyped

/-!
# The word that an editor shows

An editor shows of a suggested line what stands behind its last blank. That is
the word that has been offered, as it is written in the line, unless the word
holds a blank: then the blank inside its quotes is taken for the one in front
of it, and only the end of the word is shown. The main statement is
`Editing.shown_of_mem_complete`.
-/

namespace MenuLine

namespace Quoted

theorem mem_escape_iff {delimiter c : Char} (hc : c ≠ '\\') {word : Text} :
    c ∈ escape delimiter word ↔ c ∈ word := by
  induction word with
  | nil => rfl
  | cons d word ih =>
      by_cases hescaped : (d = delimiter || d = '\\') = true
      · rw [escape, if_pos hescaped]
        simp [hc, ih]
      · rw [escape, if_neg hescaped]
        simp [ih]

/-- A word is written with the blanks that it holds. -/
theorem blank_mem_requote_iff {word : Text} : ' ' ∈ requote word ↔ ' ' ∈ word := by
  unfold requote
  split
  · rfl
  · have hblank : ' ' ≠ '\\' := by decide
    simp [quote, mem_escape_iff hblank]

theorem source_asToken (word : Text) : (asToken word).source = requote word := by
  unfold asToken requote
  split <;> rfl

end Quoted

namespace Editing

open Quoted

theorem lastWord_of_notMem {line : Text} (h : ' ' ∉ line) : lastWord line = line :=
  List.rtakeWhile_eq_self_iff.2 fun c hc => by
    rw [bne_iff_ne]
    rintro rfl
    exact h hc

theorem blank_notMem_lastWord (line : Text) : ' ' ∉ lastWord line := fun h =>
  absurd (List.mem_rtakeWhile_imp (p := (· != ' ')) h) (by decide)

theorem exists_lastWord_of_mem {line : Text} (h : ' ' ∈ line) :
    ∃ hidden, line = hidden ++ ' ' :: lastWord line := by
  obtain ⟨back, front, hreverse, hback⟩ := List.eq_append_cons_of_mem (List.mem_reverse.2 h)
  have hline : line = front.reverse ++ ' ' :: back.reverse := by
    rw [← List.reverse_reverse line, hreverse]
    simp
  have hlast : lastWord line = back.reverse := by
    rw [hline, lastWord_append]
    exact lastWord_of_notMem fun hmem => hback (List.mem_reverse.1 hmem)
  rw [hlast]
  exact ⟨front.reverse, hline⟩

theorem lastWord_spaced (front : List Text) (word : Text) :
    lastWord (Text.spaced (front ++ [word])) = lastWord word := by
  induction front with
  | nil => rw [List.nil_append, Text.spaced_singleton]
  | cons v front ih => rw [List.cons_append, Text.spaced_cons (by simp), lastWord_append, ih]

variable (shell : Shell) (stack : MenuStack) (files : FileTree)

/-- What is shown of a suggestion that replaces the statement in front of the
cursor. The line ends in a word that is offered, and if no word of the line
holds a line end, this word is its last token. It is shown as it is written if
it holds no blank; otherwise what follows the last blank in it is shown. -/
theorem shown_of_mem_complete {line : Text} {cursor : Nat} {s : Suggestion}
    (h : s ∈ (complete shell stack files line cursor).2) :
    ∃ front word, shell.Offers stack files (lastStatement (upTo cursor line)) front word ∧
      s.replacement = Text.spaced ((front ++ [word]).map requote) ∧
      ((front ++ [word]).all isOneLine = true →
        scan .input s.replacement = (front.map asToken ++ [asToken word], none)) ∧
      (asToken word).source = requote word ∧
      if ' ' ∈ word then ∃ hidden, requote word = hidden ++ ' ' :: s.shown ∧ ' ' ∉ s.shown
      else s.shown = requote word := by
  obtain ⟨replacement, hreplacement, rfl⟩ := List.mem_map.1 h
  obtain ⟨front, word, hoffers, rfl⟩ :=
    Shell.exists_offers_of_mem_suggest shell stack files hreplacement
  refine ⟨front, word, hoffers, rfl, ?_, source_asToken word, ?_⟩
  · intro hlines
    have hne : front ++ [word] ≠ [] := by simp
    have hscan := scan_requoted hne
    rw [if_pos hlines, List.takeWhile_eq_self_iff.2 (List.all_eq_true.1 hlines)] at hscan
    simpa [suggestion] using hscan
  · have hshown : (suggestion (Text.spaced ((front ++ [word]).map requote))).shown =
        lastWord (requote word) := by
      rw [List.map_append]
      exact lastWord_spaced (front.map requote) (requote word)
    rw [hshown]
    split
    · next hblank =>
        obtain ⟨hidden, hidden_eq⟩ := exists_lastWord_of_mem (blank_mem_requote_iff.2 hblank)
        exact ⟨hidden, hidden_eq, blank_notMem_lastWord _⟩
    · next hblank => exact lastWord_of_notMem fun hmem => hblank (blank_mem_requote_iff.1 hmem)

/-- Behind another statement, a word with two blanks next to one without any. -/
theorem shown_of_mem_complete_two_words :
    let said : Statement :=
      ⟨[.literal "say".toList, .placeholder (.numbered 1) (some "voice".toList)], [], none⟩
    let shell : Shell :=
      { Shell.empty .default with
        menus := ⟨[⟨"main".toList, [⟨⟨"say $1:voice".toList, said⟩, Navigation.leave⟩]⟩]⟩
        completers := ⟨[("voice".toList, fun _ _ => ["so it is".toList, "aloud".toList])]⟩ }
    let s : Suggestion := ⟨"is\"".toList, "say \"so it is\"".toList⟩
    (complete shell .empty ⟨[], []⟩ "go; say".toList 7).2 =
        [⟨"aloud".toList, "say aloud".toList⟩, s] ∧
      ∃ front word,
        shell.Offers .empty ⟨[], []⟩ (lastStatement (upTo 7 "go; say".toList)) front word ∧
        s.replacement = Text.spaced ((front ++ [word]).map requote) ∧
        ((front ++ [word]).all isOneLine = true →
          scan .input s.replacement = (front.map asToken ++ [asToken word], none)) ∧
        (asToken word).source = requote word ∧
        if ' ' ∈ word then ∃ hidden, requote word = hidden ++ ' ' :: s.shown ∧ ' ' ∉ s.shown
        else s.shown = requote word := by
  intro said shell s
  have hcomplete : (complete shell .empty ⟨[], []⟩ "go; say".toList 7).2 =
      [⟨"aloud".toList, "say aloud".toList⟩, s] := by
    simp only [shell, said, s]
    cbv
  have hmem : s ∈ (complete shell .empty ⟨[], []⟩ "go; say".toList 7).2 := by
    rw [hcomplete]
    exact List.mem_cons_of_mem _ (List.mem_singleton_self s)
  exact ⟨hcomplete, shown_of_mem_complete shell .empty ⟨[], []⟩ hmem⟩

/-- The word `a b` is offered, and the end of it is shown. -/
theorem shown_ne_last_token :
    let said : Statement :=
      ⟨[.literal "say".toList, .placeholder (.numbered 1) (some "voice".toList)], [], none⟩
    let voice : FileTree → Completer := fun _ _ => ["a b".toList]
    let shell : Shell :=
      { Shell.empty .default with
        menus := ⟨[⟨"main".toList, [⟨⟨"say $1:voice".toList, said⟩, Navigation.leave⟩]⟩]⟩
        completers := ⟨[("voice".toList, voice)]⟩ }
    (do
      let shell ← (Shell.empty .default).addMenu "main".toList
      let shell ← shell.addCommand "main".toList "say $1:voice".toList Navigation.leave
      shell.addCompleter "voice".toList voice) = .ok shell ∧
    complete shell .empty ⟨[], []⟩ "say".toList 3 =
      (0, [⟨"b\"".toList, "say \"a b\"".toList⟩]) ∧
    scan .input "say \"a b\"".toList =
      ([⟨.word, "say".toList⟩, ⟨.quoted, "\"a b\"".toList⟩], none) ∧
    requote "a b".toList = "\"a b\"".toList := by
  refine ⟨by cbv, by cbv, by cbv, by cbv⟩

end Editing

end MenuLine
