import MenuLine.Pattern.Escape

/-!
# Reading a pattern: sets of characters

What stands between square brackets: characters, ranges, named classes, other
sets inside, and the operators `&&`, `--` and `~~`, which take what stands to
their left as one set.
-/

namespace MenuLine

namespace Pattern

/-- A set whose bracket is still open. -/
structure OpenSet where
  /-- Where the items begin. -/
  begun : Place
  items : List SetNode
  pending : Option (SetOp × SetNode)
  negated : Bool
  span : Span

namespace OpenSet

def add (s : OpenSet) (item : SetNode) : OpenSet := { s with items := item :: s.items }

/-- What has been read so far. -/
def body (s : OpenSet) : SetNode :=
  let items := SetNode.ofItems s.begun s.items.reverse
  match s.pending with
  | none => items
  | some (kind, left) => .op kind left items

/-- Goes on behind an operator. -/
def operator (s : OpenSet) (kind : SetOp) (place : Place) : OpenSet :=
  { s with begun := place, items := [], pending := some (kind, s.body) }

end OpenSet

def asciiClass? (name : Text) : Option AsciiClass :=
  let classes : List (String × AsciiClass) :=
    [("alnum", .alnum), ("alpha", .alpha), ("ascii", .ascii), ("blank", .blank),
      ("cntrl", .cntrl), ("digit", .digit), ("graph", .graph), ("lower", .lower),
      ("print", .print), ("punct", .punct), ("space", .space), ("upper", .upper),
      ("word", .word), ("xdigit", .xdigit)]
  (classes.find? fun c => c.1.toList == name).map Prod.snd

/-- A class such as `[:alpha:]`; the cursor stands at its bracket. Anything
else is left to be read as a set. -/
def readAsciiClass? (k : Cursor) : Option (SetNode × Cursor) :=
  if !k.startsWith ['[', ':'] then none
  else
    let start := k.place
    let k := k.skip 2
    let negated := k.startsWith ['^']
    let k := if negated then k.bump else k
    let name := k.rest.takeWhile (· != ':')
    let k := k.skip name.length
    if !k.startsWith [':', ']'] then none
    else (asciiClass? name).map fun c => (.ascii c negated ((k.skip 2).since start), k.skip 2)

/-- Hyphens at the start of a set stand for themselves. -/
def readHyphens (opening : Place) : (fuel : Nat) → List SetNode → Cursor →
    Reads (List SetNode)
  | 0, items, k => .ok (items, k)
  | fuel + 1, items, k =>
    if k.startsWith ['-'] then
      let after := k.bumpVoid
      if after.atEnd then fault .classUnclosed (.empty opening)
      else readHyphens opening fuel (.literal ⟨'-', false, k.charSpan⟩ :: items) after
    else .ok (items, k)

/-- The opening bracket of a set and what may follow it directly. -/
def readSetStart (k : Cursor) : Reads OpenSet :=
  let opening := k.place
  let k := k.bumpVoid
  if k.atEnd then fault .classUnclosed (k.since opening)
  else
    let negated := k.startsWith ['^']
    let k := if negated then k.bumpVoid else k
    if k.atEnd then fault .classUnclosed (k.since opening)
    else (readHyphens opening k.rest.length [] k).bind fun (items, k) =>
      if items.isEmpty && k.startsWith [']'] then
        let after := k.bumpVoid
        if after.atEnd then fault .classUnclosed (after.since opening)
        else
          let bracket : SetNode := .literal ⟨']', false, k.charSpan⟩
          .ok (⟨k.place, [bracket], none, negated, after.since opening⟩, after)
      else .ok (⟨k.place, items, none, negated, k.since opening⟩, k)

/-- One character or escape of a set. -/
def readSetItem (k : Cursor) : Reads Escape :=
  match k.rest with
  | '\\' :: _ => readEscape k
  | c :: _ => .ok (.literal ⟨c, false, k.charSpan⟩, k.bump)
  | [] => fault .classUnclosed k.here

namespace Escape

def span : Escape → Span
  | literal c => c.span
  | shorthand _ _ s => s
  | property _ _ s => s
  | anchor _ s => s

def setNode : Escape → Except Fault SetNode
  | literal c => .ok (.literal c)
  | shorthand name negated s => .ok (.shorthand name negated s)
  | property query negated s => .ok (.property query negated s)
  | anchor _ s => fault .classEscapeInvalid s

def boundary : Escape → Except Fault Literal
  | literal c => .ok c
  | e => fault .classRangeLiteral e.span

end Escape

/-- A range, or a single item where no range follows. `opening` is the set
that is unclosed if the pattern ends here. -/
def readSetRange (opening : Span) (k : Cursor) : Reads SetNode :=
  (readSetItem k).bind fun (first, k) =>
    let k := k.skipVoid
    if k.atEnd then fault .classUnclosed opening
    else if !k.startsWith ['-'] || k.second = some ']' || k.second = some '-' then
      first.setNode.map fun node => (node, k)
    else
      let k := k.bumpVoid
      if k.atEnd then fault .classUnclosed opening
      else (readSetItem k).bind fun (last, k) =>
        first.boundary.bind fun lo =>
          last.boundary.bind fun hi =>
            if hi.char < lo.char then
              fault .classRangeInvalid ⟨first.span.start, last.span.stop⟩
            else .ok (.range lo hi, k)

/-- Reads until the outermost bracket is closed. `outer` holds the sets around
the innermost one, and `fuel` bounds the number of steps. -/
def readSetBody : (fuel : Nat) → (outer : List OpenSet) → OpenSet → Cursor → Reads Node
  | 0, _, s, _ => fault .classUnclosed s.span
  | fuel + 1, outer, s, k =>
    let k := k.skipVoid
    let readOperator (kind : SetOp) (after : Cursor) : Reads Node :=
      readSetBody fuel outer (s.operator kind after.place) after
    match k.rest with
    | [] => fault .classUnclosed s.span
    | ']' :: _ =>
      let k := k.bump
      let span := k.since s.span.start
      match outer with
      | [] => .ok (.set s.body s.negated span, k)
      | around :: outer =>
        readSetBody fuel outer (around.add (.nested s.body s.negated span)) k
    | '[' :: _ =>
      match readAsciiClass? k with
      | some (node, k) => readSetBody fuel outer (s.add node) k
      | none => (readSetStart k).bind fun (inner, k) => readSetBody fuel (s :: outer) inner k
    | '&' :: '&' :: _ => readOperator .intersection (k.skip 2)
    | '-' :: '-' :: _ => readOperator .difference (k.skip 2)
    | '~' :: '~' :: _ => readOperator .symmetricDifference (k.skip 2)
    | _ :: _ => (readSetRange s.span k).bind fun (node, k) => readSetBody fuel outer (s.add node) k

/-- The cursor stands at an opening bracket. -/
def readSet (k : Cursor) : Reads Node :=
  (readSetStart k).bind fun (s, k) => readSetBody (k.rest.length + 1) [] s k

end Pattern

end MenuLine
