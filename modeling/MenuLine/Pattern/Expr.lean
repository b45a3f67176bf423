import MenuLine.Unicode.Alphanumeric

/-!
# Expressions and what they match

The meaning of a pattern: sets of characters and conditions on a place in the
line, put together by sequence, choice and repetition. `Expr.advance` takes a
set of places where a match may have got to and gives those after one more
match of the expression; the whole line is searched at once.
-/

namespace MenuLine

namespace Pattern

inductive Condition where
  | textStart
  | textEnd
  | lineStart (carriageReturn : Bool)
  | lineEnd (carriageReturn : Bool)
  | wordBoundary (unicode : Bool)
  | notWordBoundary (unicode : Bool)
  | wordStart (unicode : Bool)
  | wordEnd (unicode : Bool)
  | wordStartHalf (unicode : Bool)
  | wordEndHalf (unicode : Bool)
deriving DecidableEq, Repr

/-- Parts in a row and alternatives lean to the right. A literal has a
character at least, and a group knows its number. -/
inductive Expr where
  | empty
  | literal (t : Text)
  | set (s : CharSet)
  | when (c : Condition)
  | seq (a b : Expr)
  | alt (a b : Expr)
  | repeated (e : Expr) (least : Nat) (most : Option Nat)
  | group (index : Nat) (e : Expr)
deriving DecidableEq, Repr

/-- A place in a line: how many characters stand before it, the last of them,
and what follows. -/
structure Spot where
  index : Nat
  before : Option Char
  rest : Text
deriving Repr

namespace Spot

def next? (p : Spot) (s : CharSet) : Option Spot :=
  match p.rest with
  | [] => none
  | c :: r => if s.contains c then some ⟨p.index + 1, some c, r⟩ else none

/-- The place behind a text that stands here. -/
def past? (p : Spot) : Text → Option Spot
  | [] => some p
  | c :: t => (p.next? (.single c)).bind fun q => q.past? t

def all (index : Nat) (before : Option Char) (rest : Text) : List Spot :=
  ⟨index, before, rest⟩ ::
    match rest with
    | [] => []
    | c :: r => all (index + 1) (some c) r

/-- Joins two ascending lists of places. -/
def merge : List Spot → List Spot → List Spot
  | [], qs => qs
  | ps, [] => ps
  | p :: ps, q :: qs =>
    if p.index < q.index then p :: merge ps (q :: qs)
    else if q.index < p.index then q :: merge (p :: ps) qs
    else p :: merge ps qs

/-- The places of the first list that the second one does not hold. -/
def without : List Spot → List Spot → List Spot
  | [], _ => []
  | ps, [] => ps
  | p :: ps, q :: qs =>
    if p.index < q.index then p :: without ps (q :: qs)
    else if q.index < p.index then without (p :: ps) qs
    else without ps qs

end Spot

namespace Condition

def isWord (unicode : Bool) : Option Char → Bool
  | none => false
  | some c => if unicode then Unicode.isWordCharacter c else c.isAlphanum || c == '_'

/-- A line starts after a line feed. With carriage returns it starts after
one of these too, unless a line feed follows. -/
def startsLine (carriageReturn : Bool) (p : Spot) : Bool :=
  match p.before with
  | none => true
  | some b => b == '\n' || (carriageReturn && b == '\r' && p.rest.head? != some '\n')

def endsLine (carriageReturn : Bool) (p : Spot) : Bool :=
  match p.rest.head? with
  | none => true
  | some a =>
    if carriageReturn then a == '\r' || (a == '\n' && p.before != some '\r') else a == '\n'

def holds (c : Condition) (p : Spot) : Bool :=
  match c with
  | textStart => p.before.isNone
  | textEnd => p.rest.isEmpty
  | lineStart r => startsLine r p
  | lineEnd r => endsLine r p
  | wordBoundary u => isWord u p.before != isWord u p.rest.head?
  | notWordBoundary u => isWord u p.before == isWord u p.rest.head?
  | wordStart u => !isWord u p.before && isWord u p.rest.head?
  | wordEnd u => isWord u p.before && !isWord u p.rest.head?
  | wordStartHalf u => !isWord u p.before
  | wordEndHalf u => !isWord u p.rest.head?

end Condition

/-- Goes on from the places that were reached last until none is new; `bound`
is the number of places that there are. -/
def reach (step : List Spot → List Spot) : (bound : Nat) → (seen fresh : List Spot) → List Spot
  | 0, seen, _ => seen
  | bound + 1, seen, fresh =>
    match Spot.without (step fresh) seen with
    | [] => seen
    | new => reach step bound (Spot.merge seen new) new

def iterate (step : List Spot → List Spot) : Nat → List Spot → List Spot
  | 0, ps => ps
  | n + 1, ps => if ps.isEmpty then [] else iterate step n (step ps)

namespace Expr

/-- The places after a match that started at one of the given places. A line
has `bound` places, so more repetitions than that lead nowhere new. -/
def advance (bound : Nat) : Expr → List Spot → List Spot
  | empty, ps => ps
  | literal t, ps => ps.filterMap (·.past? t)
  | set s, ps => ps.filterMap (·.next? s)
  | when c, ps => ps.filter c.holds
  | seq a b, ps => b.advance bound (a.advance bound ps)
  | alt a b, ps => Spot.merge (a.advance bound ps) (b.advance bound ps)
  | group _ e, ps => e.advance bound ps
  | repeated e least most, ps =>
    let step := e.advance bound
    let qs := iterate step (min least bound) ps
    reach step (min ((most.map (· - least)).getD bound) bound) qs qs

def isMatch (e : Expr) (line : Text) : Bool :=
  !(e.advance (line.length + 1) (Spot.all 0 none line)).isEmpty

end Expr

end Pattern

end MenuLine
