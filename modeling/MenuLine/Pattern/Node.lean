import MenuLine.Pattern.Fault

/-!
# Patterns as written

The tree of a pattern before its flags and the names of its properties have
been looked into. Parts that may turn out to be at fault know their place.
-/

namespace MenuLine

namespace Pattern

inductive Flag where
  | caseInsensitive
  | multiLine
  | dotMatchesNewline
  | swapGreed
  | unicode
  | carriageReturn
  | ignoreSpace
deriving DecidableEq, Repr

/-- A flag to set or, after a hyphen, to take back. -/
structure FlagChange where
  flag : Flag
  on : Bool
deriving DecidableEq, Repr

inductive Shorthand where
  | digit
  | space
  | word
deriving DecidableEq, Repr

inductive AsciiClass where
  | alnum | alpha | ascii | blank | cntrl | digit | graph | lower | print | punct | space | upper
  | word | xdigit
deriving DecidableEq, Repr

/-- How a property is asked for. -/
inductive Query where
  | named (name : Text)
  | valued (name value : Text)
deriving DecidableEq, Repr

/-- A character; `isByte` if it is written with two hexadecimal digits. -/
structure Literal where
  char : Char
  isByte : Bool
  span : Span
deriving DecidableEq, Repr

inductive SetOp where
  | intersection
  | difference
  | symmetricDifference
deriving DecidableEq, Repr

/-- Two or more items of a set are a `several` around their unions. -/
inductive SetNode where
  | empty (span : Span)
  | literal (c : Literal)
  | range (lo hi : Literal)
  | ascii (name : AsciiClass) (negated : Bool) (span : Span)
  | shorthand (name : Shorthand) (negated : Bool) (span : Span)
  | property (query : Query) (negated : Bool) (span : Span)
  | nested (set : SetNode) (negated : Bool) (span : Span)
  | union (a b : SetNode)
  | several (items : SetNode)
  | op (kind : SetOp) (a b : SetNode)
deriving DecidableEq, Repr

namespace SetNode

def span : SetNode → Span
  | empty s | ascii _ _ s | shorthand _ _ s | property _ _ s | nested _ _ s => s
  | literal c => c.span
  | range lo hi => ⟨lo.span.start, hi.span.stop⟩
  | union a b | op _ a b => ⟨a.span.start, b.span.stop⟩
  | several items => items.span

/-- The set of some items, which stands at `place` if there are none. -/
def ofItems (place : Place) : List SetNode → SetNode
  | [] => .empty (.empty place)
  | [item] => item
  | item :: items => .several (items.foldl .union item)

/-- The first part that is nested deeper than `room` levels. -/
def tooDeep : SetNode → (room : Nat) → Option Span
  | nested _ _ span, 0 => some span
  | several items, 0 => some items.span
  | op _ a b, 0 => some ⟨a.span.start, b.span.stop⟩
  | nested set _ _, room + 1 => set.tooDeep room
  | several items, room + 1 => items.tooDeep room
  | op _ a b, room + 1 => a.tooDeep room <|> b.tooDeep room
  | union a b, room => a.tooDeep room <|> b.tooDeep room
  | _, _ => none

end SetNode

inductive Anchor where
  | lineStart
  | lineEnd
  | textStart
  | textEnd
  | wordBoundary
  | notWordBoundary
  | wordStart
  | wordEnd
  | wordStartHalf
  | wordEndHalf
deriving DecidableEq, Repr

/-- Parts in a row are a `sequence` around their `seq`, and alternatives a
`choice` around their `alt`. Groups that capture are numbered. -/
inductive Node where
  | empty
  | flags (changes : List FlagChange)
  | literal (c : Literal)
  | dot (span : Span)
  | anchor (kind : Anchor)
  | shorthand (name : Shorthand) (negated : Bool) (span : Span)
  | property (query : Query) (negated : Bool) (span : Span)
  | set (set : SetNode) (negated : Bool) (span : Span)
  | repeated (body : Node) (least : Nat) (most : Option Nat) (span : Span)
  | group (changes : List FlagChange) (index : Option Nat) (body : Node) (span : Span)
  | seq (a b : Node)
  | alt (a b : Node)
  | sequence (parts : Node) (span : Span)
  | choice (branches : Node) (span : Span)
deriving DecidableEq, Repr

namespace Node

/-- Whether a repetition may follow: a change of flags is nothing to repeat. -/
def isRepeatable : Node → Bool
  | empty | flags _ => false
  | _ => true

def ofItems (span : Span) : List Node → Node
  | [] => empty
  | [item] => item
  | items => sequence (items.foldr seq empty) span

def ofBranches (span : Span) : List Node → Node
  | [] => empty
  | [branch] => branch
  | branches => choice (branches.dropLast.foldr alt (branches.getLast?.getD empty)) span

/-- The first part that is nested deeper than `room` levels. -/
def tooDeep : Node → (room : Nat) → Option Span
  | set _ _ span, 0 | repeated _ _ _ span, 0 | group _ _ _ span, 0 | sequence _ span, 0
  | choice _ span, 0 => some span
  | set s _ _, room + 1 => s.tooDeep room
  | repeated body _ _ _, room + 1 | group _ _ body _, room + 1 | sequence body _, room + 1
  | choice body _, room + 1 => body.tooDeep room
  | seq a b, room | alt a b, room => a.tooDeep room <|> b.tooDeep room
  | _, _ => none

end Node

end Pattern

end MenuLine
