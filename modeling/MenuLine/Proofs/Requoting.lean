import MenuLine.Proofs.Grammar
import MenuLine.Proofs.Layout

/-!
# Words that are read back

A list of words is written with `Quoted.requote` and a blank between two of
them. Every word without a line end is read back as it was, and the first word
with one is where the line cannot be divided into tokens any further. The main
statement is `Statement.parse_requoted`.
-/

namespace MenuLine

theorem Text.cons_spaced {words : List Text} (h : words ≠ []) :
    ' ' :: spaced words = words.flatMap (' ' :: ·) := by
  induction words with
  | nil => exact absurd rfl h
  | cons w ws ih =>
      by_cases hws : ws = []
      · simp [hws]
      · rw [spaced_cons hws, ih hws]
        rfl

namespace Quoted

def isOneLine (word : Text) : Bool := word.all fun c => !isLineEnd c

/-- The token that a requoted word is read as. -/
def asToken (word : Text) : Token :=
  if isPlain word then ⟨.word, word⟩ else ⟨.quoted, quote '"' word⟩

theorem word?_asToken (word : Text) : (asToken word).word? = some word := by
  unfold asToken
  split
  · rfl
  · exact congrArg some (unquote_quote '"' word)

theorem isOneLine_of_isPlain {word : Text} (h : isPlain word = true) : isOneLine word = true := by
  refine List.all_eq_true.2 fun c hc => ?_
  cases hend : isLineEnd c with
  | false => rfl
  | true =>
      have hneeds := (isPlain_iff.1 h).2 c hc
      rw [needsQuotes_of_isLineEnd hend] at hneeds
      cases hneeds

end Quoted

namespace Scanner

open Quoted

theorem pullWord_append {mode : Mode} {first : Char} {word follow : Text}
    (hword : ∀ c ∈ word, isWordChar mode c = true)
    (hfollow : ∀ c ∈ follow.head?, isWordChar mode c = false) :
    pullWord mode first (word ++ follow) = token .word (first :: word) follow .command := by
  rw [pullWord, takeWhile_append_of_stop hword hfollow, dropWhile_append_of_stop hword hfollow]

theorem pullCommand_plain {word follow : Text} (hword : isPlain word = true)
    (hfollow : ∀ c ∈ follow.head?, isWordChar .input c = false) :
    pullCommand .input (word ++ follow) = token .word word follow .command := by
  obtain ⟨hne, hall⟩ := isPlain_iff.1 hword
  cases word with
  | nil => exact absurd rfl hne
  | cons c r =>
      have hbare (d : Char) (hd : d ∈ c :: r) : Bare d := bare_of_needsQuotes (hall d hd)
      have hc : Bare c := hbare c List.mem_cons_self
      have hr : ∀ d ∈ r, isWordChar .input d = true :=
        fun d hd => (hbare d (List.mem_cons_of_mem c hd)).isWordChar
      rw [← pullWord_append hr hfollow]
      simp [pullCommand, hc.blank, hc.lineEnd, hc.quote, hc.separator, hc.pipe, hc.redirect,
        hc.slash]

/-! ## Words between quotes -/

theorem isLineEnd_of_escaped {quote c : Char} (hquote : isQuote quote = true)
    (h : (c = quote || c = '\\') = true) : isLineEnd c = false := by
  simp only [Bool.or_eq_true, decide_eq_true_eq] at h
  rcases h with rfl | rfl
  · simp only [isQuote, Bool.or_eq_true, beq_iff_eq] at hquote
    rcases hquote with (rfl | rfl) | rfl <;> rfl
  · rfl

/-- What stands between quotes ends at the quote that no backslash stands
before, and a line end is never one of the characters with a backslash. -/
theorem splitQuote_escape {quote : Char} (hquote : isQuote quote = true) (word rest : Text) :
    splitQuote quote (escape quote word ++ quote :: rest) =
      if isOneLine word then some (escape quote word ++ [quote], rest) else none := by
  induction word with
  | nil =>
      have hslash : quote ≠ '\\' := by
        rintro rfl
        exact absurd hquote (by decide)
      simp [splitQuote_cons hslash, isOneLine]
  | cons c r ih =>
      have hline : isOneLine (c :: r) = (!isLineEnd c && isOneLine r) := rfl
      by_cases hescaped : (c = quote || c = '\\') = true
      · have hend := isLineEnd_of_escaped hquote hescaped
        rw [escape, if_pos hescaped, List.cons_append, List.cons_append, splitQuote_slash, ih,
          hline, hend]
        cases isOneLine r <;> rfl
      · have hne := hescaped
        simp only [Bool.or_eq_true, decide_eq_true_eq, not_or] at hne
        rw [escape, if_neg hescaped, List.cons_append, splitQuote_cons hne.2, if_neg hne.1, ih,
          hline]
        cases isLineEnd c <;> cases isOneLine r <;> rfl

theorem pullCommand_quote (mode : Mode) {delimiter : Char} (hdelimiter : isQuote delimiter = true)
    (word follow : Text) :
    pullCommand mode (quote delimiter word ++ follow) =
      if isOneLine word then token .quoted (quote delimiter word) follow .command
      else failed .unterminatedString (escape delimiter word ++ delimiter :: follow) := by
  have hline : quote delimiter word ++ follow =
      delimiter :: (escape delimiter word ++ delimiter :: follow) := by
    simp [quote]
  have hblank : isBlank delimiter = false := by
    simp only [isQuote, Bool.or_eq_true, beq_iff_eq] at hdelimiter
    rcases hdelimiter with (rfl | rfl) | rfl <;> rfl
  have hpull : pullCommand mode (delimiter :: (escape delimiter word ++ delimiter :: follow)) =
      pullQuoted delimiter (escape delimiter word ++ delimiter :: follow) := by
    simp [pullCommand, hblank, hdelimiter]
  rw [hline, hpull, pullQuoted, splitQuote_escape hdelimiter]
  cases isOneLine word <;> rfl

theorem pullCommand_requote {word follow : Text}
    (hfollow : ∀ c ∈ follow.head?, isWordChar .input c = false) :
    pullCommand .input (requote word ++ follow) =
      if isOneLine word then (some (.ok (asToken word)), ⟨follow, .command⟩)
      else failed .unterminatedString (escape '"' word ++ '"' :: follow) := by
  unfold requote asToken
  split
  · next hplain =>
      rw [pullCommand_plain hplain hfollow, if_pos (isOneLine_of_isPlain hplain)]
      rfl
  · exact pullCommand_quote .input rfl word follow

/-! ## All words of a line -/

/-- The tokens of words that are written one after the other, a blank before
each of them. -/
theorem drain_requoted (words : List Text) :
    (drain .input ⟨words.flatMap fun w => ' ' :: requote w, .command⟩).1 =
        (words.takeWhile isOneLine).map asToken ∧
      (drain .input ⟨words.flatMap fun w => ' ' :: requote w, .command⟩).2.1 =
        if words.all isOneLine then none else some .unterminatedString := by
  induction words with
  | nil =>
      have hdrain : drain .input ⟨[], .command⟩ = ([], none, ⟨[], .done⟩) := drain_of_ended rfl
      simp [hdrain]
  | cons w ws ih =>
      have hfollow : ∀ c ∈ (ws.flatMap fun w => ' ' :: requote w).head?,
          isWordChar .input c = false := by
        cases ws with
        | nil => simp
        | cons v ws =>
            intro c hc
            cases hc
            rfl
      have hpull : pull .input ⟨(w :: ws).flatMap fun w => ' ' :: requote w, .command⟩ =
          pullCommand .input (requote w ++ ws.flatMap fun w => ' ' :: requote w) := rfl
      rw [pullCommand_requote hfollow] at hpull
      cases hw : isOneLine w with
      | true =>
          rw [hw, if_pos rfl] at hpull
          rw [drain_of_token hpull, ih.1, ih.2]
          simp [hw]
      | false =>
          rw [hw, if_neg (by simp)] at hpull
          rw [drain_of_failed hpull]
          simp [hw]

end Scanner

open Quoted

theorem scan_requoted {words : List Text} (h : words ≠ []) :
    scan .input (Text.spaced (words.map requote)) =
      ((words.takeWhile isOneLine).map asToken,
        if words.all isOneLine then none else some .unterminatedString) := by
  have hline : words.flatMap (fun w => ' ' :: requote w) =
      ' ' :: Text.spaced (words.map requote) := by
    rw [Text.cons_spaced (by simpa using h), List.flatMap_map]
  have hblank : Scanner.pull .input ⟨' ' :: Text.spaced (words.map requote), .command⟩ =
      Scanner.pull .input (.start (Text.spaced (words.map requote))) := rfl
  obtain ⟨htokens, hfailure⟩ := Scanner.drain_requoted words
  rw [hline, Scanner.drain_of_pull_eq hblank] at htokens hfailure
  exact Prod.ext htokens hfailure

namespace Statement

open Reading Grammar

theorem words_asToken (words : List Text) : Words (words.map asToken) words := by
  induction words with
  | nil => exact .nil
  | cons w ws ih => exact .word (word?_asToken w) ih

theorem steps_asToken (w : Text) (ws : List Text) :
    start.steps ((w :: ws).map asToken) =
      .ok ⟨[], ⟨(w :: ws).map .literal, [], none⟩, .words⟩ := by
  rw [List.map_cons, start, steps_of_moves (.first (word?_asToken w)), (words_asToken ws).steps]
  rfl

theorem exists_steps_asToken (words : List Text) :
    ∃ r, start.steps (words.map asToken) = .ok r := by
  cases words with
  | nil => exact ⟨start, rfl⟩
  | cons w ws => exact ⟨_, steps_asToken w ws⟩

/-- What requoted words are read back as depends on nothing but the line ends
in them. -/
theorem parse_spaced_requote {words : List Text} (hne : words ≠ []) :
    parse .input (Text.spaced (words.map requote)) =
      if words.all isOneLine then .ok [⟨words.map .literal, [], none⟩]
      else .error (.scan .unterminatedString) := by
  rw [parse_of_scan (scan_requoted hne)]
  split
  · next hall =>
      rw [List.takeWhile_eq_self_iff.2 (List.all_eq_true.1 hall)]
      obtain ⟨w, ws, rfl⟩ := List.exists_cons_of_ne_nil hne
      rw [ofTokens, steps_asToken]
      rfl
  · obtain ⟨r, hr⟩ := exists_steps_asToken (words.takeWhile isOneLine)
    rw [ofTokens, hr]
    rfl

theorem isOneLine_iff {word : Text} : isOneLine word = true ↔ '\n' ∉ word ∧ '\r' ∉ word := by
  simp only [isOneLine, List.all_eq_true, isLineEnd, Bool.not_eq_true', Bool.or_eq_false_iff,
    beq_eq_false_iff_ne]
  constructor
  · intro h
    exact ⟨fun hn => (h _ hn).1 rfl, fun hr => (h _ hr).2 rfl⟩
  · rintro ⟨hn, hr⟩ c hc
    exact ⟨fun he => hn (he ▸ hc), fun he => hr (he ▸ hc)⟩

/-- Words that are requoted and joined by blanks are read back as one
statement of these words. Only a line end inside of a word is refused, as the
end of a quoted text that has not been closed. -/
theorem parse_requoted (words : List Text) (hne : words ≠ []) :
    ((∀ w ∈ words, '\n' ∉ w ∧ '\r' ∉ w) →
      parse .input (Text.spaced (words.map requote)) = .ok [⟨words.map .literal, [], none⟩]) ∧
    ((∃ w ∈ words, '\n' ∈ w ∨ '\r' ∈ w) →
      parse .input (Text.spaced (words.map requote)) = .error (.scan .unterminatedString)) := by
  have hscan := scan_requoted hne
  constructor
  · intro hlines
    have hall : ∀ w ∈ words, isOneLine w = true := fun w hw => isOneLine_iff.2 (hlines w hw)
    rw [List.takeWhile_eq_self_iff.2 hall, if_pos (List.all_eq_true.2 hall)] at hscan
    cases words with
    | nil => exact absurd rfl hne
    | cons w ws =>
        rw [parse, hscan]
        simp only [ofTokens, steps_asToken]
        rfl
  · rintro ⟨w, hw, hend⟩
    have hall : words.all isOneLine = false := by
      refine List.all_eq_false.2 ⟨w, hw, fun hline => ?_⟩
      obtain ⟨hn, hr⟩ := isOneLine_iff.1 hline
      exact hend.elim hn hr
    rw [hall, if_neg (by simp)] at hscan
    obtain ⟨r, hr⟩ := exists_steps_asToken (words.takeWhile isOneLine)
    rw [parse, hscan]
    simp only [ofTokens, hr]
    rfl

/-- Words with every character that quotes are for, and a word of two lines. -/
theorem parse_requoted_five_words :
    parse .input "ls \"say \\\"hi\\\"\" \"\" \"a;b|c>\\\\\" $1".toList =
      .ok [⟨["ls", "say \"hi\"", "", "a;b|c>\\", "$1"].map fun w => .literal w.toList, [], none⟩] ∧
    parse .input "ls \"a\nb\" c".toList = .error (.scan .unterminatedString) := by
  have hwords := (parse_requoted (["ls", "say \"hi\"", "", "a;b|c>\\", "$1"].map String.toList)
    (by decide)).1 (by decide)
  have hlines := (parse_requoted (["ls", "a\nb", "c"].map String.toList) (by decide)).2 (by decide)
  exact ⟨hwords, hlines⟩

end Statement

end MenuLine
