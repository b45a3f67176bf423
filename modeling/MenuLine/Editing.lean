import MenuLine.Session
import MenuLine.Unicode.WhiteSpace

/-!
# Completion in an editor

An editor replaces the statement in front of the cursor. That statement is
taken to start behind the last `;` or newline and the white space after it.
-/

namespace MenuLine

namespace Editing

def endsStatement (c : Char) : Bool := c = ';' || c = '\n'

/-- What follows the last mark that ends a statement. -/
def lastPart (line : Text) : Text := (line.reverse.takeWhile (! endsStatement ·)).reverse

/-- What stands in front of a character that stops the search makes no
difference. -/
theorem takeWhile_reverse_append {p : Char → Bool} {c : Char} (h : p c = false)
    (front rest : Text) :
    (front ++ c :: rest).reverse.takeWhile p = rest.reverse.takeWhile p := by
  have hrev : (front ++ c :: rest).reverse = rest.reverse ++ c :: front.reverse := by simp
  rw [hrev, List.takeWhile_append]
  split
  · next hall =>
    rw [List.takeWhile_cons_of_neg (by simp [h]), List.append_nil]
    exact ((List.takeWhile_prefix _).eq_of_length hall).symm
  · rfl

theorem lastPart_append (line rest : Text) {mark : Char} (h : endsStatement mark = true) :
    lastPart (line ++ mark :: rest) = lastPart rest := by
  rw [lastPart, takeWhile_reverse_append (by simp [h]), lastPart]

/-- The statement at the end of a line. -/
def lastStatement (line : Text) : Text := (lastPart line).trimStart

/-- How many bytes stand in front of the statement at the end of a line. -/
def statementStart (line : Text) : Nat := line.bytes.length - (lastStatement line).bytes.length

/-- The characters within the first `count` bytes. -/
def upTo (count : Nat) : Text → Text
  | [] => []
  | c :: r => if c.utf8Size ≤ count then c :: upTo (count - c.utf8Size) r else []

/-- What a list of suggestions shows of a line: what follows its last blank. -/
def lastWord (line : Text) : Text := (line.reverse.takeWhile (· != ' ')).reverse

theorem lastWord_append (front rest : Text) :
    lastWord (front ++ ' ' :: rest) = lastWord rest := by
  rw [lastWord, takeWhile_reverse_append rfl, lastWord]

structure Suggestion where
  shown : Text
  replacement : Text
deriving DecidableEq, Repr

def suggestion (replacement : Text) : Suggestion := ⟨lastWord replacement, replacement⟩

/-- Where the statement in front of the cursor starts, and what may stand
there. -/
def complete (shell : Shell) (stack : MenuStack) (files : FileTree) (line : Text)
    (cursor : Nat) : Nat × List Suggestion :=
  let typed := upTo cursor line
  (statementStart typed, (shell.suggest stack files (lastStatement typed)).map suggestion)

end Editing

end MenuLine
