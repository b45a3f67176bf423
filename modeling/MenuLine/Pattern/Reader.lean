import MenuLine.Pattern.SetReader

/-!
# Reading a pattern

The parts of a pattern are read from left to right. Groups that are open and
the alternatives that have been left behind are kept on a stack.
-/

namespace MenuLine

namespace Pattern

def flag? (c : Char) : Option Flag :=
  match c with
  | 'i' => some .caseInsensitive
  | 'm' => some .multiLine
  | 's' => some .dotMatchesNewline
  | 'U' => some .swapGreed
  | 'u' => some .unicode
  | 'R' => some .carriageReturn
  | 'x' => some .ignoreSpace
  | _ => none

/-- The flags of a group with their places, up to a colon or a closing
parenthesis. `negation` is the place of the hyphen, once there was one, and
`dangling` tells that nothing has followed it. -/
def readFlags : (fuel : Nat) → (found : List (FlagChange × Span)) → (negation : Option Span) →
    (dangling : Bool) → Cursor → Reads (List FlagChange)
  | 0, found, _, _, k => .ok ((found.map Prod.fst).reverse, k)
  | fuel + 1, found, negation, dangling, k =>
    match k.rest with
    | [] => fault .flagUnexpectedEnd k.here
    | c :: _ =>
      if c = ':' || c = ')' then
        match negation, dangling with
        | some span, true => fault .flagDanglingNegation span
        | _, _ => .ok ((found.map Prod.fst).reverse, k)
      else if c = '-' then
        match negation with
        | some earlier => .error ⟨.flagRepeatedNegation, k.charSpan, some earlier⟩
        | none => readFlags fuel found (some k.charSpan) true k.bump
      else match flag? c with
        | none => fault .flagUnrecognized k.charSpan
        | some flag =>
          match found.find? fun f => f.1.flag == flag with
          | some (_, earlier) => .error ⟨.flagDuplicate, k.charSpan, some earlier⟩
          | none =>
            readFlags fuel ((⟨flag, negation.isNone⟩, k.charSpan) :: found) negation false k.bump

def isNameChar (first : Bool) (c : Char) : Bool :=
  c == '_' || if first then Unicode.isAlphabetic c
    else Unicode.isAlphanumeric c || c == '.' || c == '[' || c == ']'

/-- The characters of the name of a group, up to its closing bracket. -/
def readName : (fuel : Nat) → (first : Bool) → Cursor → Reads Text
  | 0, _, k => .ok ([], k)
  | fuel + 1, first, k =>
    match k.rest with
    | [] => fault .groupNameUnexpectedEnd k.here
    | c :: _ =>
      if c = '>' then .ok ([], k)
      else if isNameChar first c then
        (readName fuel false k.bump).map fun (name, k) => (c :: name, k)
      else fault .groupNameInvalid k.charSpan

/-- What an opening parenthesis begins. -/
inductive Opening where
  | capture
  | named (name : Text) (span : Span)
  | group (changes : List FlagChange)
  | flags (changes : List FlagChange)

def readGroupName (k : Cursor) : Reads Opening :=
  let start := k.place
  (readName (k.rest.length + 1) true k).bind fun (name, k) =>
    let span := k.since start
    if name.isEmpty then fault .groupNameEmpty (.empty start)
    else .ok (.named name span, k.bump)

/-- The cursor stands at an opening parenthesis. -/
def readOpening (k : Cursor) : Reads Opening :=
  let paren := k.charSpan
  let k := k.bumpVoid
  let look (n : Nat) : Reads Opening := fault .lookAround ((k.skip n).since paren.start)
  if k.startsWith "?=".toList || k.startsWith "?!".toList then look 2
  else if k.startsWith "?<=".toList || k.startsWith "?<!".toList then look 3
  else if k.startsWith "?P<".toList then readGroupName (k.skip 3)
  else if k.startsWith "?<".toList then readGroupName (k.skip 2)
  else if k.startsWith ['?'] then
    let inner := k.here
    let k := k.bump
    if k.atEnd then fault .groupUnclosed paren
    else (readFlags (k.rest.length + 1) [] none false k).bind fun (changes, k) =>
      if k.startsWith [':'] then .ok (.group changes, k.bump)
      else if changes.isEmpty then fault .repetitionMissing inner
      else .ok (.flags changes, k.bump)
  else .ok (.capture, k)

/-- The parts of a group as far as they have been read, the last one first,
each with the place where it begins, and the alternatives before them. -/
structure GroupBody where
  opened : Place
  alternatives : List Node
  /-- Where the present alternative begins. -/
  begun : Place
  items : List (Place × Node)

namespace GroupBody

def start (place : Place) : GroupBody := ⟨place, [], place, []⟩

/-- The present alternative, which ends at `stop`. -/
def sequence (b : GroupBody) (stop : Place) : Node :=
  .ofItems ⟨b.begun, stop⟩ (b.items.reverse.map Prod.snd)

def node (b : GroupBody) (stop : Place) : Node :=
  .ofBranches ⟨b.opened, stop⟩ (b.sequence stop :: b.alternatives).reverse

/-- A bar stands at `stop` and `next` is the place behind it. -/
def alternative (b : GroupBody) (stop next : Place) : GroupBody :=
  { b with alternatives := b.sequence stop :: b.alternatives, begun := next, items := [] }

end GroupBody

/-- A group that is still open, and what stands before it. -/
structure OpenGroup where
  before : GroupBody
  changes : List FlagChange
  index : Option Nat
  paren : Span
  spaced : Bool

/-- Where the reader is: the groups around it, the innermost one first, what it
has read of that one, the number of groups that capture, and the names that
are taken. -/
structure ReaderState where
  groups : List OpenGroup
  body : GroupBody
  captures : Nat
  names : List (Text × Span)

namespace ReaderState

def start : ReaderState := ⟨[], .start .start, 0, []⟩

def add (s : ReaderState) (place : Place) (item : Node) : ReaderState :=
  { s with body := { s.body with items := (place, item) :: s.body.items } }

/-- The cursor stands at a bar. -/
def alternative (s : ReaderState) (k : Cursor) : ReaderState :=
  { s with body := s.body.alternative k.place k.bump.place }

def takeName (s : ReaderState) (name : Text) (span : Span) : Except Fault ReaderState :=
  match s.names.find? fun n => n.1 == name with
  | some (_, earlier) => .error ⟨.groupNameDuplicate, span, some earlier⟩
  | none => .ok { s with names := (name, span) :: s.names }

def ignoresSpace (changes : List FlagChange) : Option Bool :=
  (changes.find? fun c => c.flag == .ignoreSpace).map FlagChange.on

/-- The cursor stands behind the opening of a group. -/
def enter (s : ReaderState) (changes : List FlagChange) (captures : Bool) (paren : Span)
    (k : Cursor) : ReaderState × Cursor :=
  let index := if captures then some (s.captures + 1) else none
  (⟨⟨s.body, changes, index, paren, k.spaced⟩ :: s.groups, .start k.place,
      if captures then s.captures + 1 else s.captures, s.names⟩,
    { k with spaced := (ignoresSpace changes).getD k.spaced })

def openGroup (s : ReaderState) (paren : Span) (k : Cursor) : Opening →
    Except Fault (ReaderState × Cursor)
  | .flags changes =>
    .ok (s.add paren.start (.flags changes),
      { k with spaced := (ignoresSpace changes).getD k.spaced })
  | .group changes => .ok (s.enter changes false paren k)
  | .capture => .ok (s.enter [] true paren k)
  | .named name span => (s.takeName name span).map fun s => s.enter [] true paren k

/-- The cursor stands at a closing parenthesis. -/
def closeGroup (s : ReaderState) (k : Cursor) : Except Fault (ReaderState × Cursor) :=
  match s.groups with
  | [] => fault .groupUnopened k.charSpan
  | g :: groups =>
    let start := g.paren.start
    let node := .group g.changes g.index (s.body.node k.place) (k.bump.since start)
    .ok ({ s with groups := groups, body := g.before }.add start node,
      { k.bump with spaced := g.spaced })

/-- The cursor stands at the end of the pattern. -/
def finish (s : ReaderState) (k : Cursor) : Except Fault Node :=
  match s.groups with
  | [] => .ok (s.body.node k.place)
  | g :: _ => fault .groupUnclosed g.paren

/-- Whether the last part can be repeated; `operator` is the place of the
repetition. -/
def lastPart (s : ReaderState) (operator : Span) : Except Fault (Place × Node) :=
  match s.body.items with
  | [] => fault .repetitionMissing operator
  | item :: _ => if item.2.isRepeatable then .ok item else fault .repetitionMissing operator

/-- Repeats the last part; the cursor stands behind the repetition. -/
def repeatLast (s : ReaderState) (operator : Span) (least : Nat) (most : Option Nat)
    (k : Cursor) : Except Fault ReaderState :=
  (s.lastPart operator).map fun (start, node) =>
    { s with body := { s.body with items := s.body.items.drop 1 } }.add start
      (.repeated node least most (k.since start))

end ReaderState

/-- A repetition may be marked as short. Which of several matches is found
makes no difference here. -/
def pastLazyMark (k : Cursor) : Cursor := if k.startsWith ['?'] then k.bump else k

def pastWhiteSpace : (fuel : Nat) → Cursor → Cursor
  | 0, k => k
  | fuel + 1, k =>
    match k.rest with
    | c :: _ => if Unicode.isWhiteSpace c then pastWhiteSpace fuel k.bump else k
    | [] => k

/-- A count of a repetition with white space around it. No digits at all give
`none` with the place where they were expected. -/
def readCount (k : Cursor) : Reads (Except Fault Nat) :=
  let k := pastWhiteSpace k.rest.length k
  let start := k.place
  let (digits, k) := readWhile Char.isDigit k.rest.length k
  let span := k.since start
  let after := pastWhiteSpace k.rest.length k
  let value := digits.foldl (fun n c => 10 * n + (c.toNat - 48)) 0
  if digits.isEmpty then .ok (fault .repetitionCountEmpty span, after)
  else if value < UInt32.size then .ok (.ok value, after)
  else .ok (fault .decimalInvalid span, after)

/-- The cursor stands at an opening brace. -/
def readCounts (k : Cursor) : Reads (Nat × Option Nat) :=
  let start := k.place
  let unclosed (k : Cursor) : Reads (Nat × Option Nat) :=
    fault .repetitionCountUnclosed (k.since start)
  let close (k : Cursor) (counts : Nat × Option Nat) : Reads (Nat × Option Nat) :=
    if !k.startsWith ['\x7d'] then unclosed k
    else
      let k := pastLazyMark k.bumpVoid
      match counts with
      | (least, some most) =>
        if most < least then fault .repetitionCountInvalid (k.since start) else .ok (counts, k)
      | (_, none) => .ok (counts, k)
  let k := k.bumpVoid
  if k.atEnd then unclosed k
  else (readCount k).bind fun (least, k) =>
    if k.atEnd then unclosed k
    else if k.startsWith [','] then
      let k := k.bumpVoid
      if k.atEnd then unclosed k
      else if k.startsWith ['\x7d'] then least.bind fun n => close k (n, none)
      else least.bind fun n => (readCount k).bind fun (most, k) =>
        most.bind fun m => close k (n, some m)
    else least.bind fun n => close k (n, some n)

def nodeOfEscape : Escape → Node
  | .literal c => .literal c
  | .shorthand name negated span => .shorthand name negated span
  | .property query negated span => .property query negated span
  | .anchor kind _ => .anchor kind

/-- Reads the parts of a pattern to its end; each step takes a character at
least, so `fuel` need not exceed their number. -/
def readParts : (fuel : Nat) → ReaderState → Cursor → Except Fault Node
  | 0, s, k => s.finish k
  | fuel + 1, s, k =>
    let k := k.skipVoid
    let simple (least : Nat) (most : Option Nat) : Except Fault Node :=
      let after := pastLazyMark k.bump
      (s.repeatLast k.here least most after).bind fun s => readParts fuel s after
    let one (node : Node) : Except Fault Node := readParts fuel (s.add k.place node) k.bump
    match k.rest with
    | [] => s.finish k
    | '(' :: _ =>
      (readOpening k).bind fun (opening, after) =>
        (s.openGroup k.charSpan after opening).bind fun (s, k) => readParts fuel s k
    | ')' :: _ => (s.closeGroup k).bind fun (s, k) => readParts fuel s k
    | '|' :: _ => readParts fuel (s.alternative k) k.bump
    | '[' :: _ => (readSet k).bind fun (set, after) => readParts fuel (s.add k.place set) after
    | '?' :: _ => simple 0 (some 1)
    | '*' :: _ => simple 0 none
    | '+' :: _ => simple 1 none
    | '\x7b' :: _ =>
      (s.lastPart k.here).bind fun _ =>
        (readCounts k).bind fun ((least, most), after) =>
          (s.repeatLast k.here least most after).bind fun s => readParts fuel s after
    | '\\' :: _ =>
      (readEscape k).bind fun (escape, after) =>
        readParts fuel (s.add k.place (nodeOfEscape escape)) after
    | '.' :: _ => one (.dot k.charSpan)
    | '^' :: _ => one (.anchor .lineStart)
    | '$' :: _ => one (.anchor .lineEnd)
    | c :: _ => one (.literal ⟨c, false, k.charSpan⟩)

/-- How deep the parts of a pattern may be nested. -/
def maxDepth : Nat := 250

def read (pattern : Text) : Except Fault Node :=
  (readParts (pattern.length + 1) .start (.start pattern)).bind fun node =>
    match node.tooDeep maxDepth with
    | some span => fault .nestedTooDeeply span
    | none => .ok node

end Pattern

end MenuLine
