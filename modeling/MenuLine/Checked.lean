import MenuLine.Completion
import MenuLine.Match

/-!
# Matching and completion by positions

`Statement.score`, `Completion.offer` and `Completion.suggest` go along lists.
Here the same is done by counting: words are looked up by their positions, and
a lookup that misses its list is a fault that ends everything.
-/

namespace MenuLine

inductive RangeFault where
  /-- There is nothing at this position of a list of this size. -/
  | position (position size : Nat)
  /-- A number less than zero. -/
  | underflow
deriving DecidableEq, Repr

abbrev Checked (α : Type u) := Except RangeFault α

namespace Checked

variable {α : Type u}

def get (l : List α) (position : Nat) : Checked α :=
  match l[position]? with
  | some a => .ok a
  | none => .error (.position position l.length)

def set (l : List α) (position : Nat) (a : α) : Checked (List α) :=
  if position < l.length then .ok (l.set position a) else .error (.position position l.length)

/-- The size less one. -/
def lastPosition (l : List α) : Checked Nat :=
  match l.length with
  | 0 => .error .underflow
  | n + 1 => .ok n

/-! ## Matching -/

/-- Compares the words from position `i` on, where those in front of them have
come to a tier. -/
def scoreFrom (words : List Segment) (wildcard : Option Nat) :
    Nat → MatchTier → List Segment → Checked MatchTier
  | _, tier, [] => .ok tier
  | i, tier, u :: us =>
    if wildcard.any (· ≤ i) then .ok .wildcard
    else (get words i).bind fun d =>
      match Statement.matchSegment u d with
      | .none => .ok .none
      | .wildcard => scoreFrom words wildcard (i + 1) .wildcard us
      | .substitution =>
        scoreFrom words wildcard (i + 1) (if tier = .exact then .substitution else tier) us
      | .exact => scoreFrom words wildcard (i + 1) tier us

def score (typed description : Statement) : Checked MatchTier :=
  let wildcard := description.wildcardPosition
  if description.segments.length < typed.segments.length && wildcard.isNone then .ok .none
  else if typed.segments.length < description.segments.length then .ok .none
  else scoreFrom description.segments wildcard 0 .exact typed.segments

/-! ## Completion -/

open Completion (Extent Offer extent nothing candidates)

/-- Goes along the typed words from position `i` on: the position of the last
one and how far it has got, unless some word does not fit. -/
def reach (words : List Segment) :
    Nat → Nat × Extent → List Segment → Checked (Option (Nat × Extent))
  | _, reached, [] => .ok (some reached)
  | i, _, u :: us => (get words i).bind fun d =>
    if extent u d = .none then .ok none else reach words (i + 1) (i, extent u d) us

/-- What is offered at a position, of which the typed line may hold a part. -/
def offerAt (lookup : Text → Option Completer) (typed words : List Segment) (position : Nat)
    (e : Extent) : Checked Offer :=
  (get words position).map fun
    | .literal t => (.part, [t])
    | .placeholder slot completion =>
      let seed := (typed[position]?.map Segment.text).getD []
      match candidates lookup (.placeholder slot completion) seed with
      | some found => if !found.isEmpty && e != .none then (e, found) else nothing
      | none => nothing

/-- The word to offer is the one at the position that was reached, or the next
one. -/
def offerReached (lookup : Text → Option Completer) (line words : List Segment) :
    Option (Nat × Extent) → Checked Offer
  | none => .ok nothing
  | some (position, e) =>
    if e = .whole then (lastPosition words).bind fun final =>
      if position = final then .ok nothing else offerAt lookup line words (position + 1) e
    else offerAt lookup line words position e

def offerAlong (lookup : Text → Option Completer) (line words : List Segment) : Checked Offer :=
  (reach words 0 (0, .none) line).bind (offerReached lookup line words)

/-- What is offered for the word being typed by a wildcard at this position. -/
def offerWildcard (lookup : Text → Option Completer) (words : List Segment) (position : Nat)
    (seed : Text) : Checked Offer :=
  (get words position).bind fun wildcard =>
    match candidates lookup wildcard seed with
    | none => .ok nothing
    | some found =>
      if found.length = 1 then (get found 0).map fun only =>
        if only = seed then nothing else (.part, found)
      else .ok (.part, found)

def offer (lookup : Text → Option Completer) (line : List Segment) (description : Statement) :
    Checked Offer :=
  let words := description.segments
  match words.head?, line with
  | none, _ => .ok nothing
  | some (.literal t), [] => .ok (.whole, [t])
  | some _, line =>
    match description.wildcardPosition with
    | none =>
      if words.length < line.length then .ok nothing else offerAlong lookup line words
    | some position =>
      if words.length ≤ line.length then
        match line.getLast? with
        | none => .ok nothing
        | some last => offerWildcard lookup words position last.text
      else offerAlong lookup line words

/-- Writes each word to the place of the last one, over the word before it. -/
def overwrite (working : List Text) (last : Nat) : List Text → Checked (List Text)
  | [] => .ok []
  | word :: words => (set working last (Quoted.requote word)).bind fun working =>
    (overwrite working last words).map (Text.spaced working :: ·)

def suggest (lookup : Text → Option Completer) (line : List Segment)
    (descriptions : List Statement) : Checked (List Text) :=
  (descriptions.mapM (offer lookup line)).bind fun offers =>
    let results := offers.filter fun o => o.1 != .none
    let finishing := results.any fun o => o.1 == .part
    let following := !finishing && results.any fun o => o.1 == .whole
    let words := (results.filter fun o => !(finishing && o.1 == .whole)).flatMap Prod.snd
    let sorted := ((words.filter (! ·.isEmpty)).mergeSort Text.le).eraseReps
    let typed := line.map fun s => Quoted.requote s.text
    let working := if following || typed.isEmpty then typed ++ [[]] else typed
    (lastPosition working).bind fun last => overwrite working last sorted

end Checked

end MenuLine
