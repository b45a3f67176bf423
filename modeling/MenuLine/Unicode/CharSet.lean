import MenuLine.Text.Basic

/-!
# Sets of characters

A set is a list of closed ranges of code points, ascending and apart from
each other. Tables of the standard are kept as text, one range after the
other in hexadecimal, and read by `CharSet.ofTable`.
-/

namespace MenuLine

structure CharSet where
  ranges : List (Nat × Nat)
deriving Repr, DecidableEq

namespace CharSet

def empty : CharSet := ⟨[]⟩

/-- Surrogates are no characters, so the largest set has a gap. -/
def full : CharSet := ⟨[(0, 0xD7FF), (0xE000, 0x10FFFF)]⟩

def single (c : Char) : CharSet := ⟨[(c.toNat, c.toNat)]⟩

def contains (s : CharSet) (c : Char) : Bool :=
  s.ranges.any fun r => r.1 ≤ c.toNat && c.toNat ≤ r.2

@[simp] theorem contains_empty (c : Char) : empty.contains c = false := rfl

/-- Goes through ascending ranges and joins those that touch or overlap. -/
def joinFrom (lo hi : Nat) : List (Nat × Nat) → List (Nat × Nat)
  | [] => [(lo, hi)]
  | (lo', hi') :: rest =>
    if lo' ≤ hi + 1 then joinFrom lo (max hi hi') rest else (lo, hi) :: joinFrom lo' hi' rest

def joinTouching : List (Nat × Nat) → List (Nat × Nat)
  | [] => []
  | (lo, hi) :: rest => joinFrom lo hi rest

/-- Any ranges, put into order. -/
def ofRanges (ranges : List (Nat × Nat)) : CharSet :=
  ⟨joinTouching (ranges.mergeSort fun a b => a.1 ≤ b.1)⟩

def union (s t : CharSet) : CharSet :=
  ⟨joinTouching (s.ranges.merge t.ranges fun a b => a.1 ≤ b.1)⟩

/-- The gaps from `start` on. -/
def gaps (start : Nat) : List (Nat × Nat) → List (Nat × Nat)
  | [] => if start ≤ 0x10FFFF then [(start, 0x10FFFF)] else []
  | (lo, hi) :: rest =>
    if start < lo then (start, lo - 1) :: gaps (hi + 1) rest else gaps (hi + 1) rest

/-- Every character that is not in the set. -/
def compl (s : CharSet) : CharSet :=
  ⟨gaps 0 (s.union ⟨[(0xD800, 0xDFFF)]⟩).ranges⟩

def inter (s t : CharSet) : CharSet := (s.compl.union t.compl).compl

def diff (s t : CharSet) : CharSet := s.inter t.compl

def symmDiff (s t : CharSet) : CharSet := (s.union t).diff (s.inter t)

def isEmpty (s : CharSet) : Bool := s.ranges.isEmpty

def hexDigit (c : Char) : Nat :=
  if c.isDigit then c.toNat - '0'.toNat else c.toNat - 'A'.toNat + 10

def hexNumber (digits : Text) : Nat := digits.foldl (fun n c => 16 * n + hexDigit c) 0

/-- One range of a table: a number, or two with a hyphen between them. -/
def rangeOfTable (item : Text) : Nat × Nat :=
  match item.span (· != '-') with
  | (lo, []) => (hexNumber lo, hexNumber lo)
  | (lo, _ :: hi) => (hexNumber lo, hexNumber hi)

def itemsOfTable (table : Text) : List Text :=
  let (items, rest) := cutLines ' ' table
  (items ++ [rest]).filter (! ·.isEmpty)

/-- The set that the lines of a table describe. -/
def ofTable (lines : List String) : CharSet :=
  ⟨lines.flatMap fun line => (itemsOfTable line.toList).map rangeOfTable⟩

end CharSet

/-- A set of characters with the names it goes by, written in small letters
without blanks, hyphens and underscores. -/
structure NamedSet where
  names : List String
  table : List String

namespace NamedSet

def isNamed (s : NamedSet) (name : Text) : Bool := s.names.any fun n => n.toList == name

def chars (s : NamedSet) : CharSet := .ofTable s.table

def find? (sets : List NamedSet) (name : Text) : Option CharSet :=
  (sets.find? (·.isNamed name)).map chars

/-- The same for sets that are not written as a table. -/
def pick? (sets : List (List String × CharSet)) (name : Text) : Option CharSet :=
  (sets.find? fun s => s.1.any fun n => n.toList == name).map Prod.snd

end NamedSet

end MenuLine
