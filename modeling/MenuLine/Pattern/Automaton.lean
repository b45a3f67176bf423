import MenuLine.Pattern.Build
import MenuLine.Pattern.Sharing

/-!
# How large a pattern is

A pattern is matched by two automata that read the bytes of a line, one forward
and one backward. Their states are only counted here: a pattern whose automata
would take more bytes than `Tally.limit` is refused.
-/

namespace MenuLine

namespace Pattern

inductive Direction where
  | forward
  | backward
deriving DecidableEq, Repr

/-- A piece of an automaton that has been built, and whether its last state
branches, so that going on from there takes one more way. -/
structure Piece where
  tally : Tally
  branches : Bool

namespace Piece

def plain (t : Tally) : Piece := ⟨t, false⟩

def branching (t : Tally) : Piece := ⟨t, true⟩

/-- Goes on behind a piece. -/
def link (p : Piece) : Tally := p.tally.addWays (if p.branches then 1 else 0)

@[simp] theorem link_plain (t : Tally) : (plain t).link = t := rfl

@[simp] theorem link_branching (t : Tally) : (branching t).link = t.addWays 1 := rfl

/-- More copies of a piece in a row, up to the limit. -/
def copies (build : Tally → Piece) : Nat → Piece → Piece
  | 0, p => p
  | n + 1, p => if p.tally.isOver then p else copies build n (build p.link)

def exactly (build : Tally → Piece) (n : Nat) (t : Tally) : Piece :=
  match n with
  | 0 => plain (t.addStates 1)
  | n + 1 => copies build n (build t)

/-- More copies, each of which may be left out with all that follow it. -/
def options (build : Tally → Piece) : Nat → Piece → Piece
  | 0, p => p
  | n + 1, p =>
    if p.tally.isOver then p
    else
      let next := build (p.link.addStates 1)
      options build n { next with tally := next.tally.addWays 2 }

/-- A repetition that might go round without progress takes two more states.
Beyond the limit nothing is built any more. -/
def repeated (build : Tally → Piece) (canBeEmpty : Bool) (least : Nat) (most : Option Nat)
    (t : Tally) : Piece :=
  if t.isOver then plain t
  else match least, most with
  | 0, some 1 => plain (((build (t.addStates 1)).link.addStates 1).addWays 2)
  | 0, none =>
    if canBeEmpty then plain (((build t).link.addStates 3).addWays 4)
    else branching ((build (t.addStates 1)).link.addWays 1)
  | 1, none => branching (((build t).link.addStates 1).addWays 1)
  | least, none =>
    branching (((build (exactly build (least - 1) t).link).link.addStates 1).addWays 1)
  | least, some most =>
    let p := exactly build least t
    if most ≤ least then p
    else plain (options build (most - least) { p with tally := p.tally.addStates 1 }).link

end Piece

/-- Where an expression stands: by itself, or among alternatives. -/
inductive Turn where
  | alone
  | second
  | later

namespace Turn

def next : Turn → Turn
  | alone => second
  | second | later => later

/-- Joins an alternative to the others. The states where they part and meet
are built after the second one. -/
def join : Turn → Piece → Piece
  | alone, p => p
  | second, p => .plain ((p.link.addStates 2).addWays 1)
  | later, p => .plain (p.link.addWays 1)

end Turn

/-! ### Trees of words -/

/-- Words that end at once cut a list of words into chunks. -/
def wordChunks : List Bytes → List (List Bytes)
  | [] => [[]]
  | [] :: ws => [] :: wordChunks ws
  | (b :: w) :: ws =>
    match wordChunks ws with
    | [] => [[b :: w]]
    | chunk :: chunks => ((b :: w) :: chunk) :: chunks

/-- An end that comes first counts once. -/
def dropFirstEnds : List Bytes → List Bytes
  | [] :: [] :: ws => dropFirstEnds ([] :: ws)
  | ws => ws

def firstBytes (words : List Bytes) : Bytes := (words.filterMap List.head?).eraseDups

/-- What is left of the words that begin with a byte. -/
def wordsBehind (b : UInt8) (words : List Bytes) : List Bytes :=
  words.filterMap fun w =>
    match w with
    | [] => none
    | c :: rest => if c = b then some rest else none

@[simp] theorem wordsBehind_nil (b : UInt8) : wordsBehind b [] = [] := rfl

namespace Tally

/-- The states of a tree of words without the common end. Within a chunk the
words are told apart by their first bytes, and the chunks are tried in turn.
`fuel` is more than the length of the longest word. -/
def addWords : (fuel : Nat) → List Bytes → Tally → Tally
  | 0, _, t => t
  | fuel + 1, words, t =>
    if words.all List.isEmpty then t
    else
      let chunks := wordChunks (dropFirstEnds words)
      let addChunk (t : Tally) (chunk : List Bytes) : Tally :=
        let bytes := firstBytes chunk
        let t := bytes.foldl (fun t b => addWords fuel (wordsBehind b chunk) t) t
        match bytes.length with
        | 0 => t
        | 1 => t.addStates 1
        | n => (t.addStates 1).addRanges n
      let tried := (chunks.filter fun chunk => !chunk.isEmpty).length + (chunks.length - 1)
      ((chunks.foldl addChunk t).addStates 1).addWays tried

def addTree (t : Tally) (words : List Bytes) : Tally :=
  addWords ((words.map List.length).foldl max 0 + 1) words (t.addStates 1)

end Tally

namespace Expr

/-! ### Pieces of expressions -/

/-- The words of which an expression is a choice. -/
def words? (e : Expr) : Option (List Bytes) :=
  e.branches.mapM fun branch =>
    match branch with
    | literal t => some (Text.bytes t)
    | _ => none

def pieceOfSet (d : Direction) (s : CharSet) (t : Tally) : Piece :=
  .plain (
    if Tally.isAscii s then (t.addStates 2).addRanges s.ranges.length
    else match d with
      | .forward => t.addForward s
      | .backward => t.addBackward s)

def pieceOfWords (d : Direction) (words : List Bytes) (t : Tally) : Piece :=
  .plain (t.addTree (
    match d with
    | .forward => words
    | .backward => words.map List.reverse))

/-- Only the forward automaton marks the ends of groups. -/
def pieceOfGroup (d : Direction) (inner : Tally → Piece) (t : Tally) : Piece :=
  match d with
  | .forward => .plain ((inner (t.addStates 1)).link.addStates 1)
  | .backward => inner t

def piece (d : Direction) : Expr → Turn → Tally → Piece
  | empty, turn, t | when _, turn, t => turn.join (.plain (t.addStates 1))
  | literal text, turn, t => turn.join (.plain (t.addStates (Text.bytes text).length))
  | set s, turn, t => turn.join (pieceOfSet d s t)
  | group _ e, turn, t => turn.join (pieceOfGroup d (piece d e .alone) t)
  | repeated e least most, turn, t =>
    let canBeEmpty := (e.minLength.getD 0) == 0
    turn.join (.repeated (piece d e .alone) canBeEmpty least most t)
  | seq a b, turn, t =>
    turn.join (
      match d with
      | .forward => piece d b .alone (piece d a .alone t).link
      | .backward => piece d a .alone (piece d b .alone t).link)
  | alt a b, .alone, t =>
    match words? (alt a b) with
    | some words => pieceOfWords d words t
    | none => piece d b .second ((piece d a .alone t).link.addWays 1)
  | alt a b, turn, t => piece d b turn.next (turn.join (piece d a .alone t)).tally

/-! ### Automata -/

/-- Every match starts at the start of the text. -/
def startsText : Expr → Bool
  | when c => c == .textStart
  | seq a b => a.startsText || (a.maxLength == some 0 && b.startsText)
  | alt a b => a.startsText && b.startsText
  | repeated e least _ => 0 < least && e.startsText
  | group _ e => e.startsText
  | _ => false

/-- Every match ends at the end of the text. -/
def endsText : Expr → Bool
  | when c => c == .textEnd
  | seq a b => b.endsText || (b.maxLength == some 0 && a.endsText)
  | alt a b => a.endsText && b.endsText
  | repeated e least _ => 0 < least && e.endsText
  | group _ e => e.endsText
  | _ => false

/-- Where a match may begin anywhere, any bytes may be passed over before. -/
def start (d : Direction) (e : Expr) : Tally :=
  let isFixed :=
    match d with
    | .forward => e.startsText
    | .backward => e.endsText
  if isFixed then Tally.empty.addStates 1
  else ((Tally.empty.addStates 3).addRanges 1).addWays 2

/-- The automaton of a whole pattern, which is a group itself. -/
def automaton (d : Direction) (e : Expr) : Tally :=
  ((group 0 e).piece d .alone (e.start d)).link.addStates 1

def isTooLarge (e : Expr) : Bool :=
  (e.automaton .forward).isOver || (e.automaton .backward).isOver

end Expr

end Pattern

end MenuLine
