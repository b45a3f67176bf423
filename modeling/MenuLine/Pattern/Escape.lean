import MenuLine.Pattern.Cursor

/-!
# Reading a pattern: escapes

What a backslash and the characters after it stand for.
-/

namespace MenuLine

namespace Pattern

def isMeta (c : Char) : Bool := "\\.+*?()|[]\x7b\x7d^$#&-~".toList.contains c

/-- Characters that may be written with a backslash though they need none. -/
def isEscapable (c : Char) : Bool :=
  isMeta c || (c.toNat < 128 && !c.isAlphanum && c != '<' && c != '>')

/-- Exactly `count` digits; the cursor stands at the first of them. -/
def readHexDigits (start : Place) : (count : Nat) → (found : Text) → Cursor → Reads Char
  | 0, found, k =>
    match charOfHex? found.reverse with
    | some c => .ok (c, k)
    | none => fault .escapeHexInvalid (k.since start)
  | count + 1, found, k =>
    match k.rest with
    | [] => fault .escapeUnexpectedEnd k.here
    | c :: _ =>
      if isHexDigit c then readHexDigits start count (c :: found) k.bumpVoid
      else fault .escapeHexInvalidDigit k.charSpan

/-- Digits between braces; the cursor stands at the opening one. -/
def readHexBraces (k : Cursor) : Reads Char :=
  let opening := k.place
  let (digits, closing) := readWhile (fun c => c != '\x7d' && isHexDigit c) k.rest.length k.bumpVoid
  match closing.rest with
  | [] => fault .escapeUnexpectedEnd (closing.since opening)
  | '\x7d' :: _ =>
    let after := closing.bumpVoid
    if digits.isEmpty then fault .escapeHexEmpty (after.since opening)
    else match charOfHex? digits with
      | some c => .ok (c, after)
      | none => fault .escapeHexInvalid (closing.since k.bump.place)
  | _ :: _ => fault .escapeHexInvalidDigit closing.charSpan

/-- The cursor stands at `x`, `u` or `U`, and `start` is the backslash. -/
def readHex (start : Place) (kind : Char) (k : Cursor) : Reads Literal :=
  let k := k.bumpVoid
  match k.rest with
  | [] => fault .escapeUnexpectedEnd k.here
  | '\x7b' :: _ => (readHexBraces k).map fun (c, k) => (⟨c, false, k.since start⟩, k)
  | _ :: _ =>
    let count := if kind = 'x' then 2 else if kind = 'u' then 4 else 8
    (readHexDigits k.place count [] k).map fun (c, k) =>
      (⟨c, kind == 'x', k.since start⟩, k)

/-- A part that is written with a backslash. -/
inductive Escape where
  | literal (c : Literal)
  | shorthand (name : Shorthand) (negated : Bool) (span : Span)
  | property (query : Query) (negated : Bool) (span : Span)
  | anchor (kind : Anchor) (span : Span)

/-- The query between the braces of a property, and whether it asks for the
characters whose value is another one. -/
def splitQuery (name : Text) : Query × Bool :=
  let rec cut (sign : Text) (before : Text) : Text → Option (Text × Text)
    | [] => none
    | c :: r =>
      if sign.isPrefixOf (c :: r) then some (before.reverse, (c :: r).drop sign.length)
      else cut sign (c :: before) r
  match cut ['!', '='] [] name, cut [':'] [] name <|> cut ['='] [] name with
  | some (property, value), _ => (.valued property value, true)
  | none, some (property, value) => (.valued property value, false)
  | none, none => (.named name, false)

/-- The cursor stands at `p` or `P`, and `start` is the backslash. -/
def readProperty (start : Place) (negated : Bool) (k : Cursor) : Reads Escape :=
  let k := k.bumpVoid
  match k.rest with
  | [] => fault .escapeUnexpectedEnd k.here
  | '\x7b' :: _ =>
    let (name, closing) := readWhile (· != '\x7d') k.rest.length k.bumpVoid
    if closing.atEnd then fault .escapeUnexpectedEnd closing.here
    else
      let (query, differs) := splitQuery name
      .ok (.property query (negated != differs) (closing.bump.since start), closing.bump)
  | '\\' :: _ => fault .unicodeClassInvalid k.charSpan
  | c :: _ => .ok (.property (.named [c]) negated (k.bumpVoid.since start), k.bumpVoid)

def isBoundaryChar (c : Char) : Bool := c.isAlpha || c == '-'

/-- After a word boundary an opening brace may begin the name of a special
one; if it does not, it is left for a count. -/
def readBoundary (start : Place) (k : Cursor) : Reads Anchor :=
  if !k.startsWith ['\x7b'] then .ok (.wordBoundary, k)
  else
    let inside := k.bumpVoid
    match inside.rest with
    | [] => fault .wordBoundaryUnexpectedEnd (inside.since start)
    | c :: _ =>
      if !isBoundaryChar c then .ok (.wordBoundary, k)
      else
        let (name, closing) := readWhile isBoundaryChar inside.rest.length inside
        if !closing.startsWith ['\x7d'] then fault .wordBoundaryUnclosed (closing.since k.place)
        else if name = "start".toList then .ok (.wordStart, closing.bump)
        else if name = "end".toList then .ok (.wordEnd, closing.bump)
        else if name = "start-half".toList then .ok (.wordStartHalf, closing.bump)
        else if name = "end-half".toList then .ok (.wordEndHalf, closing.bump)
        else fault .wordBoundaryUnrecognized (closing.since inside.place)

def shorthand? (c : Char) : Option (Shorthand × Bool) :=
  match c with
  | 'd' => some (.digit, false)
  | 'D' => some (.digit, true)
  | 's' => some (.space, false)
  | 'S' => some (.space, true)
  | 'w' => some (.word, false)
  | 'W' => some (.word, true)
  | _ => none

def control? (c : Char) : Option Char :=
  match c with
  | 'a' => some '\x07'
  | 'f' => some '\x0c'
  | 't' => some '\t'
  | 'n' => some '\n'
  | 'r' => some '\r'
  | 'v' => some '\x0b'
  | _ => none

def anchor? (c : Char) : Option Anchor :=
  match c with
  | 'A' => some .textStart
  | 'z' => some .textEnd
  | 'B' => some .notWordBoundary
  | '<' => some .wordStart
  | '>' => some .wordEnd
  | _ => none

/-- The cursor stands at a backslash. -/
def readEscape (k : Cursor) : Reads Escape :=
  let start := k.place
  let k := k.bump
  match k.rest with
  | [] => fault .escapeUnexpectedEnd (k.since start)
  | c :: _ =>
    let after := k.bump
    let span := after.since start
    if c.isDigit then fault .backreference span
    else if c = 'x' || c = 'u' || c = 'U' then
      (readHex start c k).map fun (l, k) => (.literal l, k)
    else if c = 'p' || c = 'P' then
      readProperty start (c == 'P') k
    else if c = 'b' then
      (readBoundary start after).map fun (a, k) => (.anchor a (k.since start), k)
    else if isEscapable c then .ok (.literal ⟨c, false, span⟩, after)
    else match shorthand? c, control? c, anchor? c with
      | some (name, negated), _, _ => .ok (.shorthand name negated span, after)
      | _, some control, _ => .ok (.literal ⟨control, false, span⟩, after)
      | _, _, some a => .ok (.anchor a span, after)
      | _, _, _ => fault .escapeUnrecognized span

end Pattern

end MenuLine
