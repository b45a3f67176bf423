import MenuLine.Text.Basic

/-!
# Faults of a pattern

What is wrong with a pattern and where. A report shows the pattern with marks
below the faulty characters.
-/

namespace MenuLine

namespace Pattern

/-- Line and column, both counted from one. -/
structure Place where
  line : Nat
  column : Nat
deriving DecidableEq, Repr

namespace Place

def start : Place := ⟨1, 1⟩

def after (p : Place) (c : Char) : Place :=
  if c = '\n' then ⟨p.line + 1, 1⟩ else ⟨p.line, p.column + 1⟩

end Place

structure Span where
  start : Place
  stop : Place
deriving DecidableEq, Repr

namespace Span

def empty (p : Place) : Span := ⟨p, p⟩

def isOneLine (s : Span) : Bool := s.start.line == s.stop.line

end Span

inductive Cause where
  | classEscapeInvalid
  | classRangeInvalid
  | classRangeLiteral
  | classUnclosed
  | decimalInvalid
  | escapeHexEmpty
  | escapeHexInvalid
  | escapeHexInvalidDigit
  | escapeUnexpectedEnd
  | escapeUnrecognized
  | flagDanglingNegation
  | flagDuplicate
  | flagRepeatedNegation
  | flagUnexpectedEnd
  | flagUnrecognized
  | groupNameDuplicate
  | groupNameEmpty
  | groupNameInvalid
  | groupNameUnexpectedEnd
  | groupUnclosed
  | groupUnopened
  | repetitionCountInvalid
  | repetitionCountEmpty
  | repetitionCountUnclosed
  | repetitionMissing
  | wordBoundaryUnclosed
  | wordBoundaryUnrecognized
  | wordBoundaryUnexpectedEnd
  | unicodeClassInvalid
  | backreference
  | lookAround
  | nestedTooDeeply
  | unicodeNotAllowed
  | notUtf8
  | propertyNotFound
  | propertyValueNotFound
deriving DecidableEq, Repr

namespace Cause

def message : Cause → String
  | classEscapeInvalid => "invalid escape sequence found in character class"
  | classRangeInvalid => "invalid character class range, the start must be <= the end"
  | classRangeLiteral => "invalid range boundary, must be a literal"
  | classUnclosed => "unclosed character class"
  | decimalInvalid => "decimal literal invalid"
  | escapeHexEmpty => "hexadecimal literal empty"
  | escapeHexInvalid => "hexadecimal literal is not a Unicode scalar value"
  | escapeHexInvalidDigit => "invalid hexadecimal digit"
  | escapeUnexpectedEnd => "incomplete escape sequence, reached end of pattern prematurely"
  | escapeUnrecognized => "unrecognized escape sequence"
  | flagDanglingNegation => "dangling flag negation operator"
  | flagDuplicate => "duplicate flag"
  | flagRepeatedNegation => "flag negation operator repeated"
  | flagUnexpectedEnd => "expected flag but got end of regex"
  | flagUnrecognized => "unrecognized flag"
  | groupNameDuplicate => "duplicate capture group name"
  | groupNameEmpty => "empty capture group name"
  | groupNameInvalid => "invalid capture group character"
  | groupNameUnexpectedEnd => "unclosed capture group name"
  | groupUnclosed => "unclosed group"
  | groupUnopened => "unopened group"
  | repetitionCountInvalid => "invalid repetition count range, the start must be <= the end"
  | repetitionCountEmpty => "repetition quantifier expects a valid decimal"
  | repetitionCountUnclosed => "unclosed counted repetition"
  | repetitionMissing => "repetition operator missing expression"
  | wordBoundaryUnclosed =>
    "special word boundary assertion is either unclosed or contains an invalid character"
  | wordBoundaryUnrecognized =>
    "unrecognized special word boundary assertion, valid choices are: start, end, start-half or end-half"
  | wordBoundaryUnexpectedEnd =>
    "found either the beginning of a special word boundary or a bounded repetition on a \\b with an opening brace, but no closing brace"
  | unicodeClassInvalid => "invalid Unicode character class"
  | backreference => "backreferences are not supported"
  | lookAround => "look-around, including look-ahead and look-behind, is not supported"
  | nestedTooDeeply => "exceed the maximum number of nested parentheses/brackets (250)"
  | unicodeNotAllowed => "Unicode not allowed here"
  | notUtf8 => "pattern can match invalid UTF-8"
  | propertyNotFound => "Unicode property not found"
  | propertyValueNotFound => "Unicode property value not found"

end Cause

/-- A fault, and the earlier place it refers to, if there is one. -/
structure Fault where
  cause : Cause
  span : Span
  earlier : Option Span
deriving DecidableEq, Repr

namespace Fault

def spans (f : Fault) : List Span :=
  match f.earlier with
  | none => [f.span]
  | some e => if e.start.column ≤ f.span.start.column then [e, f.span] else [f.span, e]

def spaces (n : Nat) : Text := List.replicate n ' '

/-- The marks below a line: one at least for each span. `column` counts the
places that have been passed. -/
def marks (column : Nat) : List Span → Text
  | [] => []
  | s :: ss =>
    let gap := s.start.column - 1 - column
    let width := max 1 (s.stop.column - s.start.column)
    spaces gap ++ List.replicate width '^' ++ marks (column + gap + width) ss

/-- Each line of the pattern, and the marks that belong below it. -/
def notes (f : Fault) (margin : Nat → Text) (indent : Nat) : Nat → List Text → Text
  | _, [] => []
  | n, line :: lines =>
    let here := f.spans.filter fun s => s.isOneLine && s.start.line == n
    let marked := if here.isEmpty then [] else spaces indent ++ marks 0 here ++ ['\n']
    margin n ++ line ++ '\n' :: marked ++ notes f margin indent (n + 1) lines

/-- Spans of more than one line are told by their ends. -/
def acrossLines (s : Span) : Text :=
  "on line ".toList ++ Text.ofNat s.start.line ++ " (column ".toList ++
    Text.ofNat s.start.column ++ ") through line ".toList ++ Text.ofNat s.stop.line ++
      " (column ".toList ++ Text.ofNat (s.stop.column - 1) ++ ")\n".toList

/-- A pattern of one line is indented; lines of a longer one are numbered and
set off by rules. -/
def report (f : Fault) (pattern : Text) : Text :=
  let lines := Text.lines pattern
  let count := lines.length + if pattern.getLast? = some '\n' then 1 else 0
  let width := (Text.ofNat count).length
  let numbered (n : Nat) : Text :=
    spaces (width - (Text.ofNat n).length) ++ Text.ofNat n ++ ": ".toList
  let shown :=
    if count ≤ 1 then f.notes (fun _ => spaces 4) 4 1 lines
    else f.notes numbered (width + 2) 1 lines
  let rule := List.replicate 79 '~' ++ ['\n']
  let body :=
    if pattern.contains '\n' then
      rule ++ shown ++ rule ++ (f.spans.filter (! ·.isOneLine)).flatMap acrossLines
    else shown
  "regex parse error:\n".toList ++ body ++ "error: ".toList ++ f.cause.message.toList

end Fault

end Pattern

end MenuLine
