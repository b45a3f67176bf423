import MenuLine.Text.Basic

/-!
# Ranges of characters as bytes

In UTF-8 the characters of a range are written by a few sequences of ranges of
bytes: any byte of the first range is followed by any byte of the second, and
so on. A range is cut until its ends are written with the same bytes but for
the last ones, and these run through all that there are.
-/

namespace MenuLine.Unicode.Utf8

abbrev ByteRange := Nat × Nat

/-- Where the characters begin that are written with one more byte. -/
def lengthCut? (lo hi : Nat) : Option Nat :=
  [0x80, 0x800, 0x10000].find? fun cut => lo < cut && cut ≤ hi

/-- Where a range has to be cut because `2 ^ bits` characters share their first
bytes. -/
def blockCut? (lo hi bits : Nat) : Option Nat :=
  let block := Nat.pow 2 bits
  if lo / block = hi / block then none
  else if lo % block ≠ 0 then some ((lo / block + 1) * block)
  else if hi % block ≠ block - 1 then some (hi / block * block)
  else none

def cut? (lo hi : Nat) : Option Nat :=
  match lengthCut? lo hi with
  | some cut => some cut
  | none => if hi < 0x80 then none else [6, 12, 18].findSome? (blockCut? lo hi)

def bytesOf (n : Nat) : List Nat := (String.utf8EncodeChar (Char.ofNat n)).map UInt8.toNat

/-- The sequences of a range without surrogates, in ascending order. -/
def sequencesFrom (lo hi : Nat) : List (List ByteRange) :=
  match cut? lo hi with
  | some cut =>
    if _ : lo < cut ∧ cut ≤ hi then sequencesFrom lo (cut - 1) ++ sequencesFrom cut hi
    else [(bytesOf lo).zip (bytesOf hi)]
  | none => [(bytesOf lo).zip (bytesOf hi)]
termination_by hi - lo

/-- The sequences of any range; surrogates are no characters. -/
def sequences (lo hi : Nat) : List (List ByteRange) :=
  if lo < 0xE000 ∧ 0xD7FF < hi then sequencesFrom lo 0xD7FF ++ sequencesFrom 0xE000 hi
  else sequencesFrom lo hi

end MenuLine.Unicode.Utf8
