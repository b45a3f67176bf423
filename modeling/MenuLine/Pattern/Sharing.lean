import Std.Data.HashMap
import MenuLine.Unicode.CharSet
import MenuLine.Unicode.Utf8

/-!
# The states of a set of characters

An automaton that reads bytes needs several states for a set of characters.
States that are alike are built once, as far as a table remembers them: each
slot of the table keeps the state that was put there last.
-/

namespace MenuLine

namespace Pattern

/-- How much of an automaton has been built: the number of its states, and the
bytes that they take beyond their fixed size. -/
structure Tally where
  states : Nat
  extra : Nat
deriving DecidableEq, Repr

namespace Tally

def empty : Tally := ⟨0, 0⟩

def stateBytes : Nat := 32

def bytes (t : Tally) : Nat := stateBytes * t.states + t.extra

/-- No automaton may take more bytes than this. -/
def limit : Nat := 10485760

def isOver (t : Tally) : Bool := limit < t.bytes

def addStates (t : Tally) (n : Nat) : Tally := { t with states := t.states + n }

/-- Ways out of states that branch. -/
def addWays (t : Tally) (n : Nat) : Tally := { t with extra := t.extra + 4 * n }

/-- Ranges of bytes in states that have several. -/
def addRanges (t : Tally) (n : Nat) : Tally := { t with extra := t.extra + 8 * n }

@[simp] theorem bytes_empty : empty.bytes = 0 := rfl

@[simp] theorem bytes_addStates (t : Tally) (n : Nat) :
    (t.addStates n).bytes = t.bytes + stateBytes * n := by
  simp [bytes, addStates, Nat.mul_add, Nat.add_right_comm]

@[simp] theorem bytes_addWays (t : Tally) (n : Nat) : (t.addWays n).bytes = t.bytes + 4 * n := by
  simp [bytes, addWays, Nat.add_assoc]

@[simp] theorem bytes_addRanges (t : Tally) (n : Nat) :
    (t.addRanges n).bytes = t.bytes + 8 * n := by
  simp [bytes, addRanges, Nat.add_assoc]

end Tally

/-- The automaton so far, and the states in the table with what they are known
by. -/
structure Sharing where
  tally : Tally
  slots : Std.HashMap Nat (List Nat × Nat)

namespace Sharing

def slotOf (count : Nat) (key : List Nat) : Nat :=
  (key.foldl (fun h n => (h ^^^ n.toUInt64) * 1099511628211)
    (14695981039346656037 : UInt64)).toNat % count

/-- The state known by a key, which is built with so many ranges if the table
of `count` slots does not hold it. -/
def stateFor (s : Sharing) (count : Nat) (key : List Nat) (ranges : Nat) : Nat × Sharing :=
  let slot := slotOf count key
  let build : Nat × Sharing :=
    (s.tally.states,
      ⟨(s.tally.addStates 1).addRanges ranges, s.slots.insert slot (key, s.tally.states)⟩)
  match s.slots[slot]? with
  | some (known, state) => if known = key then (state, s) else build
  | none => build

end Sharing

/-- A state that is not finished: its ranges with the states behind them, the
last one first, and a range whose state is still to come. -/
structure OpenState where
  ranges : List (Unicode.Utf8.ByteRange × Nat)
  last : Option Unicode.Utf8.ByteRange

namespace OpenState

def close (s : OpenState) (next : Nat) : List (Unicode.Utf8.ByteRange × Nat) :=
  match s.last with
  | none => s.ranges
  | some r => (r, next) :: s.ranges

def key (ranges : List (Unicode.Utf8.ByteRange × Nat)) : List Nat :=
  ranges.reverse.flatMap fun r => [r.1.1, r.1.2, r.2]

/-- Finishes some states, each of which is behind the last range of the one
before it, and gives the first. All lead to `target`. -/
def finish (target : Nat) : List OpenState → Sharing → Nat × Sharing
  | [], s => (target, s)
  | o :: os, s =>
    let (next, s) := finish target os s
    let ranges := o.close next
    s.stateFor 10000 (key ranges) ranges.length

/-- How many of the states go on with the same ranges as a sequence. -/
def agreement : List Unicode.Utf8.ByteRange → List OpenState → Nat
  | r :: rs, o :: os => if o.last = some r then agreement rs os + 1 else 0
  | _, _ => 0

/-- Adds a sequence that comes after all those before it. -/
def add (target : Nat) (seq : List Unicode.Utf8.ByteRange) (stack : List OpenState) (s : Sharing) :
    List OpenState × Sharing :=
  let same := agreement seq stack
  match stack.drop same, seq.drop same with
  | top :: deeper, r :: rest =>
    let (next, s) := finish target deeper s
    (stack.take same ++ ⟨top.close next, some r⟩ :: rest.map fun r => ⟨[], some r⟩, s)
  | _, _ => (stack, s)

end OpenState

namespace Tally

def sequences (set : CharSet) : List (List Unicode.Utf8.ByteRange) :=
  set.ranges.flatMap fun r => Unicode.Utf8.sequences r.1 r.2

def isAscii (set : CharSet) : Bool := set.ranges.all fun r => r.2 < 0x80

/-- Read forward, the sequences make a tree whose states are shared from the
leaves on. -/
def addForward (t : Tally) (set : CharSet) : Tally :=
  let target := t.states
  let start : List OpenState × Sharing := ([⟨[], none⟩], ⟨t.addStates 1, ∅⟩)
  let (states, s) := (sequences set).foldl (fun (os, s) seq => OpenState.add target seq os s) start
  (OpenState.finish target states s).2.tally

/-- Read backward, every sequence is a way out of one state, and sequences
share the states of their first bytes. -/
def addBackward (t : Tally) (set : CharSet) : Tally :=
  let target := t.states + 1
  let addByte : Nat × Sharing → Unicode.Utf8.ByteRange → Nat × Sharing :=
    fun (next, s) r => s.stateFor 1000 [next, r.1, r.2] 0
  let add (s : Sharing) (seq : List Unicode.Utf8.ByteRange) : Sharing :=
    let s := (seq.foldl addByte (target, s)).2
    { s with tally := s.tally.addWays 1 }
  ((sequences set).foldl add ⟨t.addStates 2, ∅⟩).tally

end Tally

end Pattern

end MenuLine
