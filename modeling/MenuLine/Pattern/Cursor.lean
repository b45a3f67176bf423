import MenuLine.Pattern.Node
import MenuLine.Unicode.Alphanumeric

/-!
# Reading a pattern: characters

A cursor is the rest of a pattern together with the place it starts at. In
spaced patterns white space and comments between the parts are skipped.
-/

namespace MenuLine

namespace Pattern

structure Cursor where
  rest : Text
  place : Place
  /-- White space is skipped and `#` starts a comment. -/
  spaced : Bool
deriving Repr

abbrev Reads (α : Type) := Except Fault (α × Cursor)

def fault (cause : Cause) (span : Span) : Except Fault α := .error ⟨cause, span, none⟩

namespace Cursor

def start (pattern : Text) : Cursor := ⟨pattern, .start, false⟩

def bump (k : Cursor) : Cursor :=
  match k.rest with
  | [] => k
  | c :: r => { k with rest := r, place := k.place.after c }

/-- Goes past `n` characters. -/
def skip (k : Cursor) : Nat → Cursor
  | 0 => k
  | n + 1 => k.bump.skip n

/-- Past white space and comments. -/
def pastVoid (inComment : Bool) (place : Place) : Text → Place × Text
  | [] => (place, [])
  | c :: r =>
    if inComment then pastVoid (c != '\n') (place.after c) r
    else if Unicode.isWhiteSpace c then pastVoid false (place.after c) r
    else if c = '#' then pastVoid true (place.after c) r
    else (place, c :: r)

def skipVoid (k : Cursor) : Cursor :=
  if k.spaced then
    let (place, rest) := pastVoid false k.place k.rest
    { k with rest := rest, place := place }
  else k

def bumpVoid (k : Cursor) : Cursor := k.bump.skipVoid

def atEnd (k : Cursor) : Bool := k.rest.isEmpty

/-- The place of the next character, or the end. -/
def here (k : Cursor) : Span := .empty k.place

def charSpan (k : Cursor) : Span := ⟨k.place, k.bump.place⟩

def since (k : Cursor) (start : Place) : Span := ⟨start, k.place⟩

def startsWith (k : Cursor) (t : Text) : Bool := t.isPrefixOf k.rest

/-- The character after the next one; in spaced patterns the next one that is
neither white space nor the start of a comment. -/
def second (k : Cursor) : Option Char :=
  let after := k.rest.drop 1
  if k.spaced then
    match after.dropWhile Unicode.isWhiteSpace with
    | '#' :: r => r.find? (! Unicode.isWhiteSpace ·) <|> after.head?
    | r => r.head? <|> after.head?
  else after.head?

end Cursor

/-- The characters up to the first that `p` does not hold of, in spaced
patterns without the white space between them. `fuel` bounds their number. -/
def readWhile (p : Char → Bool) : (fuel : Nat) → Cursor → Text × Cursor
  | 0, k => ([], k)
  | fuel + 1, k =>
    match k.rest with
    | [] => ([], k)
    | c :: _ =>
      if p c then
        let (found, k) := readWhile p fuel k.bumpVoid
        (c :: found, k)
      else ([], k)

def isHexDigit (c : Char) : Bool :=
  c.isDigit || ('a' ≤ c && c ≤ 'f') || ('A' ≤ c && c ≤ 'F')

def hexValue (digits : Text) : Nat :=
  digits.foldl (fun n c =>
    16 * n + if c.isDigit then c.toNat - 48 else if c.isLower then c.toNat - 87 else c.toNat - 55) 0

/-- The character that digits stand for, if they stand for one. -/
def charOfHex? (digits : Text) : Option Char :=
  if (hexValue digits).isValidChar then
    some (Char.ofNat (hexValue digits))
  else none

end Pattern

end MenuLine
