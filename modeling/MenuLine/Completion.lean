import MenuLine.Statement.Quoted
import MenuLine.Statement.Basic

/-!
# Completion

`Completion.offer` says what one description has to offer for a half-typed
statement: words that finish the last typed word, or words that may follow
it. `Completion.suggest` gathers the offers of all descriptions and writes
out the lines that result.
-/

namespace MenuLine

/-- A source of words for a placeholder, called with what has been typed. -/
abbrev Completer := Text → List Text

namespace Completion

/-- How far the last typed word has got. -/
inductive Extent where
  | none
  /-- It may still be finished. -/
  | part
  /-- It is complete, and the next word may be offered. -/
  | whole
deriving DecidableEq, Repr

/-- The extent of a typed word at the place of a word of a description. -/
def extent (typed : Segment) : Segment → Extent
  | .placeholder _ _ => .part
  | .literal t =>
    if t = typed.text then .whole else if typed.text.isPrefixOf t then .part else .none

abbrev Offer := Extent × List Text

def nothing : Offer := (.none, [])

/-- The completer that a placeholder names, if it is known, applied to what
has been typed. -/
def candidates (lookup : Text → Option Completer) (described : Segment) (seed : Text) :
    Option (List Text) :=
  (described.completion?.bind lookup).map (· seed)

/-- Goes along the typed words: how far the last one has got, what of the
offered word has been typed, and the word of the description to offer. -/
def target : List Segment → List Segment → Option (Extent × Text × Segment)
  | [u], d :: ds =>
    match extent u d with
    | .none => none
    | .part => some (.part, u.text, d)
    | .whole => ds.head?.map fun next => (.whole, [], next)
  | u :: us, d :: ds => if extent u d = .none then none else target us ds
  | _, _ => none

/-- What is offered for a line that leaves all of a description's words
behind but a wildcard: only the word being typed counts. -/
def offerWildcard (lookup : Text → Option Completer) (wildcard : Segment) (seed : Text) : Offer :=
  match candidates lookup wildcard seed with
  | none => nothing
  | some found => if found = [seed] then nothing else (.part, found)

/-- What is offered at the end of the line. A literal word is offered as it
stands and takes the place of the last typed word. -/
def offerTarget (lookup : Text → Option Completer) : Option (Extent × Text × Segment) → Offer
  | none => nothing
  | some (_, _, .literal t) => (.part, [t])
  | some (e, seed, .placeholder slot completion) =>
    match candidates lookup (.placeholder slot completion) seed with
    | none | some [] => nothing
    | some found => (e, found)

def offer (lookup : Text → Option Completer) (line : List Segment) (description : Statement) :
    Offer :=
  match line.getLast?, description.segments with
  | _, [] => nothing
  | none, .literal t :: _ => (.whole, [t])
  | none, .placeholder _ _ :: _ => nothing
  | some last, words =>
    match words.find? Segment.isWildcard with
    | none =>
      if words.length < line.length then nothing else offerTarget lookup (target line words)
    | some wildcard =>
      if words.length ≤ line.length then offerWildcard lookup wildcard last.text
      else offerTarget lookup (target line words)

@[simp] theorem offer_empty (lookup : Text → Option Completer) (line : List Segment)
    (filters : List FilterCall) (output : Option Text) :
    offer lookup line ⟨[], filters, output⟩ = nothing := by
  simp [offer]

/-- The lines that may replace the typed one, ascending and each once. As
soon as some word can be finished no next word is offered. -/
def suggest (lookup : Text → Option Completer) (line : List Segment)
    (descriptions : List Statement) : List Text :=
  let offers := (descriptions.map (offer lookup line)).filter fun o => o.1 != .none
  let finishing := offers.any fun o => o.1 == .part
  let words := (offers.filter fun o => !finishing || o.1 == .part).flatMap Prod.snd
  let sorted := ((words.filter (! ·.isEmpty)).mergeSort Text.le).eraseReps
  let typed := line.map fun s => Quoted.requote s.text
  let kept := if finishing then typed.dropLast else typed
  sorted.map fun word => Text.spaced (kept ++ [Quoted.requote word])

end Completion

end MenuLine
