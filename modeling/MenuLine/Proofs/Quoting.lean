import MenuLine.Proofs.Requoting
import MenuLine.Proofs.Spelling

/-!
# Texts between quotes

The scanner and the reader of quoted texts pair backslashes in the same way. A
text that is written between any of the three quotes is read back, whatever
stands behind it, and of a quoted text that the scanner hands out nothing is
lost but its two quotes and the backslashes in front of such a quote or of
another backslash. The main statement is `Scanner.pull_quote_and_unquote`.
-/

namespace MenuLine

namespace Quoted

/-- What stands between two quotes, and the text that it stands for. A
backslash goes with the character behind it, and is left out if that is a quote
of the same kind or a backslash. -/
inductive StandsFor (quote : Char) : Text → Text → Prop where
  | nil : StandsFor quote [] []
  | plain {c inner word} (hquote : c ≠ quote) (hslash : c ≠ '\\') (hend : isLineEnd c = false)
      (h : StandsFor quote inner word) : StandsFor quote (c :: inner) (c :: word)
  | escaped {c inner word} (hc : c = quote ∨ c = '\\') (h : StandsFor quote inner word) :
      StandsFor quote ('\\' :: c :: inner) (c :: word)
  | kept {c inner word} (hquote : c ≠ quote) (hslash : c ≠ '\\')
      (h : StandsFor quote inner word) : StandsFor quote ('\\' :: c :: inner) ('\\' :: c :: word)

theorem unquote_of_quotes (quote : Char) (inner : Text) :
    unquote (quote :: (inner ++ [quote])) = resolve quote inner := by
  simp [unquote, dropLastDelimiter]

end Quoted

namespace Scanner

open Quoted

/-- The scanner finds the closing quote where the pairs of a backslash and a
character end. -/
theorem exists_standsFor {quote : Char} {t body rest : Text}
    (h : splitQuote quote t = some (body, rest)) :
    ∃ inner, body = inner ++ [quote] ∧ StandsFor quote inner (resolve quote inner) := by
  refine splitQuote_induction
    (motive := fun _ body =>
      ∃ inner, body = inner ++ [quote] ∧ StandsFor quote inner (resolve quote inner)) ?_ ?_ ?_ h
  · exact ⟨[], rfl, .nil⟩
  · rintro c t body ⟨inner, rfl, hinner⟩
    refine ⟨'\\' :: c :: inner, rfl, ?_⟩
    rw [resolve_slash]
    by_cases hc : (c = quote || c = '\\') = true
    · rw [if_pos hc]
      exact .escaped (by simpa using hc) hinner
    · rw [if_neg hc]
      simp only [Bool.or_eq_true, decide_eq_true_eq, not_or] at hc
      rw [resolve_cons hc.2]
      exact .kept hc.1 hc.2 hinner
  · rintro c t body hne hslash hend ⟨inner, rfl, hinner⟩
    refine ⟨c :: inner, rfl, ?_⟩
    rw [resolve_cons hslash]
    exact .plain hne hslash hend hinner

theorem Leads.exists_standsFor {mode : Mode} {before after : Phase} {t : Token}
    (h : Leads mode before t after) (ht : t.kind = .quoted) :
    ∃ quote inner, isQuote quote = true ∧ t.text = quote :: (inner ++ [quote]) ∧
      StandsFor quote inner (unquote t.text) := by
  cases h with
  | @quoted quote body hquote hbody =>
      obtain ⟨inner, rfl, hinner⟩ := Scanner.exists_standsFor hbody
      refine ⟨quote, inner, hquote, rfl, ?_⟩
      rwa [unquote_of_quotes]
  | _ => cases ht

/-- A text without line ends that is written between quotes is the next token,
up to its closing quote and whatever stands behind that, and is read back. Any
quoted text that is handed out begins and ends with the same quote and stands
for what is read of it. -/
theorem pull_quote_and_unquote (mode : Mode) :
    (∀ (delimiter : Char) (word follow : Text), isQuote delimiter = true →
      '\n' ∉ word → '\r' ∉ word →
      pull mode ⟨quote delimiter word ++ follow, .command⟩ =
          (some (.ok ⟨.quoted, quote delimiter word⟩), ⟨follow, .command⟩) ∧
        unquote (quote delimiter word) = word) ∧
    ∀ (s after : Scanner) (t : Token), pull mode s = (some (.ok t), after) → t.kind = .quoted →
      ∃ delimiter inner, isQuote delimiter = true ∧
        t.text = delimiter :: (inner ++ [delimiter]) ∧
        StandsFor delimiter inner (unquote t.text) := by
  constructor
  · intro delimiter word follow hdelimiter hfeed hreturn
    have hline : isOneLine word = true := Statement.isOneLine_iff.2 ⟨hfeed, hreturn⟩
    refine ⟨?_, unquote_quote delimiter word⟩
    calc
      pull mode ⟨quote delimiter word ++ follow, .command⟩ =
          pullCommand mode (quote delimiter word ++ follow) := rfl
      _ = token .quoted (quote delimiter word) follow .command := by
        rw [pullCommand_quote mode hdelimiter, if_pos hline]
  · intro s after t hpull hkind
    exact (leads_of_pull hpull).exists_standsFor hkind

/-- Other quotes and backslashes up to the end of the text, and a quoted text
with a backslash in front of a line end, of its quote and of a backslash. -/
theorem pull_quote_and_unquote_runs_of_slashes :
    let word := "it's \\\\'\"x\\".toList
    let handed : Token := ⟨.quoted, "'a\\\nb\\'\\\\'".toList⟩
    isQuote '\'' = true ∧ '\n' ∉ word ∧ '\r' ∉ word ∧
      pull .description ⟨quote '\'' word ++ "' \"y".toList, .command⟩ =
        (some (.ok ⟨.quoted, quote '\'' word⟩), ⟨"' \"y".toList, .command⟩) ∧
      unquote (quote '\'' word) = word ∧
    pull .description ⟨"'a\\\nb\\'\\\\' c".toList, .command⟩ =
        (some (.ok handed), ⟨" c".toList, .command⟩) ∧
      ∃ delimiter inner, isQuote delimiter = true ∧
        handed.text = delimiter :: (inner ++ [delimiter]) ∧
        StandsFor delimiter inner "a\\\nb'\\".toList := by
  intro word handed
  obtain ⟨hwritten, hhanded⟩ := pull_quote_and_unquote .description
  have hfeed : '\n' ∉ word := by decide
  have hreturn : '\r' ∉ word := by decide
  obtain ⟨hpull, hunquote⟩ := hwritten '\'' word "' \"y".toList rfl hfeed hreturn
  have htoken : pull .description ⟨"'a\\\nb\\'\\\\' c".toList, .command⟩ =
      (some (.ok handed), ⟨" c".toList, .command⟩) := rfl
  exact ⟨rfl, hfeed, hreturn, hpull, hunquote, htoken, hhanded _ _ _ htoken rfl⟩

end Scanner

end MenuLine
