import MenuLine.Text.Basic

/-!
# Statements

A statement is a list of segments, followed by calls of filters and perhaps
the name of an output file. The description of a command is a statement too;
only there do placeholders occur.
-/

namespace MenuLine

/-- Which of the user's words a placeholder stands for. -/
inductive Slot where
  /-- One word; the words are handed on in the order of these numbers. -/
  | numbered (n : Nat)
  /-- All words that are left. -/
  | wildcard
deriving DecidableEq, Repr

namespace Slot

def text : Slot → Text
  | numbered n => Text.ofNat n
  | wildcard => ['*']

end Slot

inductive Segment where
  | literal (text : Text)
  /-- A slot, and the name of the completer that knows words for it. -/
  | placeholder (slot : Slot) (completion : Option Text)
deriving DecidableEq, Repr

namespace Segment

/-- What a user types for a segment. -/
def text : Segment → Text
  | literal t => t
  | placeholder slot _ => '$' :: slot.text

@[simp] theorem text_literal (t : Text) : (literal t).text = t := rfl

def slot? : Segment → Option Slot
  | literal _ => none
  | placeholder slot _ => some slot

def completion? : Segment → Option Text
  | literal _ => none
  | placeholder _ completion => completion

def isPlaceholder (s : Segment) : Bool := s.slot?.isSome

def isWildcard (s : Segment) : Bool := s.slot? == some .wildcard

def isNumbered : Segment → Bool
  | placeholder (.numbered _) _ => true
  | _ => false

@[simp] theorem isWildcard_literal (t : Text) : (literal t).isWildcard = false := rfl

@[simp] theorem isWildcard_numbered (n : Nat) (c : Option Text) :
    (placeholder (.numbered n) c).isWildcard = false := rfl

@[simp] theorem isWildcard_wildcard (c : Option Text) :
    (placeholder .wildcard c).isWildcard = true := rfl

end Segment

/-- A filter and the words after its name. -/
structure FilterCall where
  name : Text
  args : List Text
deriving DecidableEq, Repr

namespace FilterCall

def text (f : FilterCall) : Text := " | ".toList ++ Text.spaced (f.name :: f.args)

end FilterCall

structure Statement where
  segments : List Segment
  filters : List FilterCall
  output : Option Text
deriving DecidableEq, Repr

namespace Statement

def empty : Statement := ⟨[], [], none⟩

def isEmpty (s : Statement) : Bool := s.segments.isEmpty

/-- The words alone. -/
def words (segments : List Segment) : Text := Text.spaced (segments.map Segment.text)

/-- The canonical text: what is kept in the history and shown to the user. -/
def text (s : Statement) : Text :=
  words s.segments ++ s.filters.flatMap FilterCall.text ++
    match s.output with
    | none => []
    | some file => " > ".toList ++ file

def wildcardPosition (s : Statement) : Option Nat := s.segments.findIdx? Segment.isWildcard

def hasWildcard (s : Statement) : Bool := s.wildcardPosition.isSome

def hasNumbered (s : Statement) : Bool := s.segments.any Segment.isNumbered

def hasSlot (s : Statement) (slot : Slot) : Bool :=
  s.segments.any fun segment => segment.slot? == some slot

end Statement

end MenuLine
