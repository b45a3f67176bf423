import MenuLine.Token.Basic
import MenuLine.Unicode.WhiteSpace

/-!
# Quoted words

`unquote` takes the delimiters and the escapes off a quoted text. `requote`
writes a word so that it is read back as one word: as it stands where that is
safe, and between double quotes otherwise.
-/

namespace MenuLine

namespace Quoted

/-- A backslash stands for the delimiter or the backslash after it, and for
itself in front of anything else. -/
def resolve (delimiter : Char) : Text → Text
  | '\\' :: c :: r =>
    if c = delimiter || c = '\\' then c :: resolve delimiter r
    else '\\' :: resolve delimiter (c :: r)
  | c :: r => c :: resolve delimiter r
  | [] => []

@[simp] theorem resolve_nil (delimiter : Char) : resolve delimiter [] = [] := rfl

theorem resolve_slash (delimiter c : Char) (r : Text) :
    resolve delimiter ('\\' :: c :: r) =
      if c = delimiter || c = '\\' then c :: resolve delimiter r
      else '\\' :: resolve delimiter (c :: r) := by
  rw [resolve]

theorem resolve_cons {delimiter c : Char} (hc : c ≠ '\\') (r : Text) :
    resolve delimiter (c :: r) = c :: resolve delimiter r := by
  rw [resolve]
  intro d s hd _
  exact absurd hd hc

def dropLastDelimiter (delimiter : Char) (t : Text) : Text :=
  if t.getLast? = some delimiter then t.dropLast else t

def unquote : Text → Text
  | [] => []
  | delimiter :: t => resolve delimiter (dropLastDelimiter delimiter t)

@[simp] theorem unquote_nil : unquote [] = [] := rfl

/-- Puts a backslash before the delimiter and before a backslash. -/
def escape (delimiter : Char) : Text → Text
  | [] => []
  | c :: r =>
    if c = delimiter || c = '\\' then '\\' :: c :: escape delimiter r
    else c :: escape delimiter r

@[simp] theorem escape_nil (delimiter : Char) : escape delimiter [] = [] := rfl

theorem resolve_escape (delimiter : Char) (t : Text) :
    resolve delimiter (escape delimiter t) = t := by
  induction t with
  | nil => rfl
  | cons c r ih =>
    by_cases h : c = delimiter || c = '\\'
    · simp [escape, h, resolve, ih]
    · rw [escape, if_neg h]
      have hc : c ≠ '\\' := by
        intro hc
        simp [hc] at h
      rw [resolve_cons hc, ih]

def quote (delimiter : Char) (t : Text) : Text :=
  delimiter :: (escape delimiter t ++ [delimiter])

theorem unquote_quote (delimiter : Char) (t : Text) : unquote (quote delimiter t) = t := by
  simp [unquote, quote, dropLastDelimiter, resolve_escape]

/-- A character that a word cannot hold outside of quotes. -/
def needsQuotes (c : Char) : Bool :=
  Unicode.isWhiteSpace c || isQuote c || c == ';' || c == '|' || c == '>' || c == '\\'

def isPlain (word : Text) : Bool := !word.isEmpty && !word.any needsQuotes

def requote (word : Text) : Text := if isPlain word then word else quote '"' word

theorem requote_of_isPlain {word : Text} (h : isPlain word = true) : requote word = word := by
  rw [requote, if_pos h]

theorem isPlain_iff {word : Text} :
    isPlain word = true ↔ word ≠ [] ∧ ∀ c ∈ word, needsQuotes c = false := by
  simp [isPlain]

/-- Blanks and line ends are white space. -/
theorem needsQuotes_of_isBlank {c : Char} (h : isBlank c = true) : needsQuotes c = true := by
  simp only [isBlank, Bool.or_eq_true, beq_iff_eq] at h
  rcases h with rfl | rfl <;> rfl

theorem needsQuotes_of_isLineEnd {c : Char} (h : isLineEnd c = true) : needsQuotes c = true := by
  simp only [isLineEnd, Bool.or_eq_true, beq_iff_eq] at h
  rcases h with rfl | rfl <;> rfl

/-- What the scanner sees of a character that needs no quotes. -/
structure Bare (c : Char) : Prop where
  blank : isBlank c = false
  lineEnd : isLineEnd c = false
  quote : isQuote c = false
  separator : c ≠ ';'
  pipe : c ≠ '|'
  redirect : c ≠ '>'
  slash : c ≠ '\\'

theorem bare_of_needsQuotes {c : Char} (h : needsQuotes c = false) : Bare c := by
  have hblank : isBlank c = false := by
    rw [← Bool.not_eq_true]
    intro hc
    rw [needsQuotes_of_isBlank hc] at h
    cases h
  have hend : isLineEnd c = false := by
    rw [← Bool.not_eq_true]
    intro hc
    rw [needsQuotes_of_isLineEnd hc] at h
    cases h
  simp only [needsQuotes, Bool.or_eq_false_iff, beq_eq_false_iff_ne] at h
  obtain ⟨⟨⟨⟨⟨-, hquote⟩, hseparator⟩, hpipe⟩, hredirect⟩, hslash⟩ := h
  exact ⟨hblank, hend, hquote, hseparator, hpipe, hredirect, hslash⟩

theorem Bare.isWordChar {c : Char} (h : Bare c) : isWordChar .input c = true := by
  simp [MenuLine.isWordChar, h.blank, h.lineEnd, h.separator, h.pipe, h.redirect]

end Quoted

end MenuLine
