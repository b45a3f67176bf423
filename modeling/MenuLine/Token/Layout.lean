import MenuLine.Token.Scanner

/-!
# The layout of a line

Where the tokens of a line stand in it, stated without the scanner. Blanks may
stand before and behind each token, a token is written in one way and a
continuation in one way for every run of line ends. Some tokens reach as far as
they can: what stands behind them is no character that they might have taken.
-/

namespace MenuLine

/-- Spaces and tabs alone. -/
def Text.Blank (t : Text) : Prop := ∀ c ∈ t, isBlank c = true

/-- The characters that a token takes for as long as they come. -/
def TokenKind.takes (mode : Mode) : TokenKind → Char → Bool
  | .word | .filename => isWordChar mode
  | .continuation => isLineEnd
  | .completionType => Scanner.isNameChar
  | .quoted | .separator | .placeholder | .pipe | .redirect => fun _ => false

namespace Token

inductive WrittenAs : Token → Text → Prop where
  | source {t : Token} (hkind : t.kind ≠ .continuation) : WrittenAs t t.source
  | continuation {t : Token} {ends : Text} (hkind : t.kind = .continuation) (hne : ends ≠ [])
      (hends : ∀ c ∈ ends, isLineEnd c = true) : WrittenAs t ('\\' :: ends)

/-- Words and names of files are not empty and hold characters of words alone. -/
def WellSpelled (mode : Mode) (t : Token) : Prop :=
  t.kind = .word ∨ t.kind = .filename → t.text ≠ [] ∧ ∀ c ∈ t.text, isWordChar mode c = true

end Token

/-- A line that begins with a token, and what is left of the line behind it. -/
inductive Piece (mode : Mode) : Text → Token → Text → Prop where
  | mk {t : Token} {before source after rest : Text} (hbefore : before.Blank)
      (hsource : t.WrittenAs source) (hne : source ≠ []) (hspelled : t.WellSpelled mode)
      (hafter : after.Blank)
      (hstop : ∀ c ∈ (after ++ rest).head?, t.kind.takes mode c = false) :
      Piece mode (before ++ (source ++ (after ++ rest))) t rest

/-- A line that begins with some tokens, one after the other. -/
inductive Layout (mode : Mode) : Text → List Token → Text → Prop where
  | nil (rest : Text) : Layout mode rest [] rest
  | cons {line t middle ts rest} (hpiece : Piece mode line t middle)
      (h : Layout mode middle ts rest) : Layout mode line (t :: ts) rest

theorem Piece.length_lt {mode : Mode} {line rest : Text} {t : Token} (h : Piece mode line t rest) :
    rest.length < line.length := by
  obtain @⟨_, before, source, after, _, -, -, hne, -, -, -⟩ := h
  have hsource := List.length_pos_iff.2 hne
  simp only [List.length_append]
  omega

/-- There are no more tokens than characters. -/
theorem Layout.length_le {mode : Mode} {line rest : Text} {ts : List Token}
    (h : Layout mode line ts rest) : ts.length + rest.length ≤ line.length := by
  induction h with
  | nil rest => simp
  | cons hpiece h ih =>
      have hlt := hpiece.length_lt
      simp only [List.length_cons]
      omega

namespace Scanner

/-- Successive pulls, each of which hands out a token. -/
inductive Pulls (mode : Mode) : Scanner → List Token → Scanner → Prop where
  | nil (s : Scanner) : Pulls mode s [] s
  | cons {s t middle ts last} (hpull : pull mode s = (some (.ok t), middle))
      (h : Pulls mode middle ts last) : Pulls mode s (t :: ts) last

theorem Pulls.drain_eq {mode : Mode} {s last : Scanner} {ts : List Token}
    (h : Pulls mode s ts last) :
    drain mode s = (ts ++ (drain mode last).1, (drain mode last).2) := by
  induction h with
  | nil s => rfl
  | cons hpull h ih => rw [drain_of_token hpull, ih, List.cons_append]

end Scanner

end MenuLine
