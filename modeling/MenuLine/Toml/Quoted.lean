import MenuLine.Toml.Scalar

/-!
# Quoted values

Four ways to quote: with double quotes, where a backslash begins an escape,
or with apostrophes, where it does not, each on one line or, with the mark
written three times, on several.
-/

namespace MenuLine

namespace Toml

/-- A character that may stand in a comment or in quotes. -/
def isPrintable (c : Char) : Bool := c == '\t' || (' ' ≤ c && c != '\x7f')

def scalarOfHex? (digits : Text) : Option Char :=
  if digits.all isHex && (valueOf 16 digits).isValidChar then
    some (Char.ofNat (valueOf 16 digits))
  else none

def simpleEscape? (c : Char) : Option Char :=
  match c with
  | 'b' => some '\x08'
  | 't' => some '\t'
  | 'n' => some '\n'
  | 'f' => some '\x0c'
  | 'r' => some '\r'
  | '"' => some '"'
  | '\\' => some '\\'
  | _ => none

/-- What stands after a backslash: a character, and what follows. -/
def escape? : Text → Option (Char × Text)
  | 'u' :: r =>
    if r.length < 4 then none else (scalarOfHex? (r.take 4)).map fun c => (c, r.drop 4)
  | 'U' :: r =>
    if r.length < 8 then none else (scalarOfHex? (r.take 8)).map fun c => (c, r.drop 8)
  | c :: r => (simpleEscape? c).map fun c => (c, r)
  | [] => none

def newline? : Text → Option Text
  | '\n' :: r => some r
  | '\r' :: '\n' :: r => some r
  | _ => none

def dropNewline (t : Text) : Text := (newline? t).getD t

def dropBlanks (t : Text) : Text := t.dropWhile fun c => c == ' ' || c == '\t'

/-- Past white space and newlines. -/
def dropSpace : Text → Text
  | [] => []
  | '\r' :: '\n' :: r => dropSpace r
  | c :: r => if c = ' ' || c = '\t' || c = '\n' then dropSpace r else c :: r

/-- Up to the closing mark; `fuel` bounds the number of characters. -/
def readBasic : (fuel : Nat) → Text → Option (Text × Text)
  | _ + 1, '"' :: r => some ([], r)
  | fuel + 1, '\\' :: r =>
    (escape? r).bind fun (c, r) => (readBasic fuel r).map fun (t, r) => (c :: t, r)
  | fuel + 1, c :: r =>
    if isPrintable c then (readBasic fuel r).map fun (t, r) => (c :: t, r) else none
  | _, _ => none

def readLiteral : Text → Option (Text × Text)
  | '\'' :: r => some ([], r)
  | c :: r => if isPrintable c then (readLiteral r).map fun (t, r) => (c :: t, r) else none
  | [] => none

/-- Up to two more marks may stand directly before the three closing ones. -/
def closing (mark : Char) (t : Text) : Option (Text × Text) :=
  let run := (t.takeWhile (· == mark)).length
  if run < 3 then none else some (List.replicate (min (run - 3) 2) mark, t.drop (min run 5))

/-- A backslash at the end of a line takes all white space after it away. -/
def dropLineBreak (t : Text) : Option Text :=
  match newline? (dropBlanks t) with
  | some r => some (dropSpace r)
  | none => none

def readMultiBasic : (fuel : Nat) → Text → Option (Text × Text)
  | 0, _ => none
  | fuel + 1, t =>
    let go (text : Text) (r : Text) : Option (Text × Text) :=
      (readMultiBasic fuel r).map fun (u, r) => (text ++ u, r)
    match closing '"' t with
    | some found => some found
    | none =>
      match t with
      | [] => none
      | '\\' :: r =>
        match dropLineBreak r with
        | some r => go [] r
        | none => (escape? r).bind fun (c, r) => go [c] r
      | c :: r =>
        match newline? t with
        | some r => go ['\n'] r
        | none => if isPrintable c then go [c] r else none

def readMultiLiteral : (fuel : Nat) → Text → Option (Text × Text)
  | 0, _ => none
  | fuel + 1, t =>
    match closing '\'' t with
    | some found => some found
    | none =>
      match newline? t, t with
      | some r, _ => (readMultiLiteral fuel r).map fun (u, r) => ('\n' :: u, r)
      | none, c :: r =>
        if isPrintable c then (readMultiLiteral fuel r).map fun (u, r) => (c :: u, r) else none
      | none, [] => none

def readString (t : Text) : Option (Text × Text) :=
  match t with
  | '"' :: '"' :: '"' :: r => readMultiBasic (r.length + 1) (dropNewline r)
  | '"' :: r => readBasic (r.length + 1) r
  | '\'' :: '\'' :: '\'' :: r => readMultiLiteral (r.length + 1) (dropNewline r)
  | '\'' :: r => readLiteral r
  | _ => none

end Toml

end MenuLine
