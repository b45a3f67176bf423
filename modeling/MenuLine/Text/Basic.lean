/-!
# Text and bytes

Lines, words and messages are lists of characters; what flows between a
command, its filters and a file is a list of bytes. `Text.bytes` writes
characters in UTF-8 and `Text.ofBytes?` reads them back.
-/

namespace MenuLine

abbrev Text := List Char

abbrev Bytes := List UInt8

namespace Text

def bytes (t : Text) : Bytes := t.flatMap String.utf8EncodeChar

@[simp] theorem bytes_nil : bytes [] = [] := rfl

@[simp] theorem bytes_cons (c : Char) (t : Text) :
    bytes (c :: t) = String.utf8EncodeChar c ++ bytes t := rfl

@[simp] theorem bytes_append (t u : Text) : bytes (t ++ u) = bytes t ++ bytes u := by
  simp [bytes]

def ofBytes? (b : Bytes) : Option Text :=
  (String.fromUTF8? ⟨b.toArray⟩).map String.toList

def ofNat (n : Nat) : Text := Nat.toDigits 10 n

/-- The words as they are typed, one blank between two of them. -/
def spaced (words : List Text) : Text := List.intercalate [' '] words

@[simp] theorem spaced_nil : spaced [] = [] := rfl

@[simp] theorem spaced_singleton (w : Text) : spaced [w] = w := by
  simp [spaced, List.intercalate]

theorem spaced_cons_cons (w v : Text) (ws : List Text) :
    spaced (w :: v :: ws) = w ++ ' ' :: spaced (v :: ws) := by
  simp [spaced, List.intercalate]

theorem spaced_cons {words : List Text} (h : words ≠ []) (w : Text) :
    spaced (w :: words) = w ++ ' ' :: spaced words := by
  cases words with
  | nil => exact absurd rfl h
  | cons v ws => exact spaced_cons_cons w v ws

/-- Whether a text does not come after another, compared character by
character by code point. -/
def le (t u : Text) : Bool := !decide (u < t)

theorem le_total (t u : Text) : (le t u || le u t) = true := by
  simp only [le, Bool.or_eq_true, Bool.not_eq_true', decide_eq_false_iff_not]
  exact List.le_total t u

theorem le_trans (t u v : Text) (htu : le t u = true) (huv : le u v = true) :
    le t v = true := by
  simp only [le, Bool.not_eq_true', decide_eq_false_iff_not] at *
  exact List.le_trans htu huv

end Text

/-- The complete lines of a list, each without its `newline`, and what
follows the last `newline`. -/
def cutLines [DecidableEq α] (newline : α) : List α → List (List α) × List α
  | [] => ([], [])
  | c :: r =>
    let (lines, rest) := cutLines newline r
    if c = newline then ([] :: lines, rest)
    else match lines with
      | [] => ([], c :: rest)
      | line :: lines => ((c :: line) :: lines, rest)

@[simp] theorem cutLines_nil [DecidableEq α] (newline : α) :
    cutLines newline [] = ([], []) := rfl

/-- Nothing is lost when lines are cut. -/
theorem flatMap_cutLines [DecidableEq α] (newline : α) (t : List α) :
    (cutLines newline t).1.flatMap (· ++ [newline]) ++ (cutLines newline t).2 = t := by
  induction t with
  | nil => rfl
  | cons c r ih =>
    unfold cutLines
    generalize cutLines newline r = cut at ih ⊢
    obtain ⟨lines, rest⟩ := cut
    dsimp only at ih ⊢
    split
    · next h => simpa [h] using ih
    · cases lines with
      | nil => simpa using ih
      | cons line lines => simpa using ih

/-- A line without the mark that may stand before its newline. -/
def dropMark [DecidableEq α] (mark : α) (line : List α) : List α :=
  if line.getLast? = some mark then line.dropLast else line

/-- The lines of a list: each ends at a newline, which is taken off together
with one mark before it; a last line without a newline counts unless it is
empty and is kept as it stands. -/
def linesOf [DecidableEq α] (newline mark : α) (t : List α) : List (List α) :=
  let (lines, rest) := cutLines newline t
  lines.map (dropMark mark) ++ if rest.isEmpty then [] else [rest]

def Text.lines (t : Text) : List Text := linesOf '\n' '\r' t

def Bytes.lines (b : Bytes) : List Bytes := linesOf 10 13 b

end MenuLine
