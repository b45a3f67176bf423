import MenuLine.Statement.Quoted
import MenuLine.Statement.Basic
import MenuLine.Token.Scanner

/-!
# Reading statements

The tokens of a line drive a small automaton: `Reading.step` takes one token,
and `Reading.finish` says what the line means when no token follows. A line
that the scanner gives up on fails at that place, after the tokens before it
have been read.
-/

namespace MenuLine

inductive ParseError where
  | scan (cause : ScanError)
  | unexpectedToken (token : Token)
  | duplicatePlaceholder (slot : Slot)
  | invalidPlaceholderIndex (digits : Text)
  | multipleOutputs
  | expectedFilename
  | expectedFilterName
deriving DecidableEq, Repr

namespace ParseError

def message : ParseError → Text
  | scan cause => cause.message
  | unexpectedToken t =>
    "unexpected ".toList ++ t.kind.name ++ " token '".toList ++ t.text ++ ['\'']
  | duplicatePlaceholder slot => "duplicate placeholder $".toList ++ slot.text
  | invalidPlaceholderIndex digits => "invalid placeholder index $".toList ++ digits
  | multipleOutputs => "cannot specify multiple output files".toList
  | expectedFilename => "expected output filename".toList
  | expectedFilterName => "expected word after |".toList

end ParseError

/-- What may come next. -/
inductive Expecting where
  /-- The first word of a statement. -/
  | statement
  /-- More words, a filter, an output file or the end of the statement. -/
  | words
  /-- The completion type of a placeholder that was just read. -/
  | completion (slot : Slot)
  | filterName
  | filterArgs (filter : FilterCall)
  | filename
  /-- The end of the statement; the output file has been named. -/
  | separator
deriving DecidableEq, Repr

/-- The statements that are complete, the one being read, and what may come
next. -/
structure Reading where
  complete : List Statement
  current : Statement
  expecting : Expecting
deriving DecidableEq, Repr

namespace Reading

def start : Reading := ⟨[], .empty, .statement⟩

/-- Closes the current statement. -/
def close (r : Reading) : Reading :=
  ⟨if r.current.isEmpty then r.complete else r.complete ++ [r.current], .empty, .statement⟩

def expect (r : Reading) (e : Expecting) : Reading := { r with expecting := e }

def addSegment (r : Reading) (s : Segment) : Reading :=
  ⟨r.complete, { r.current with segments := r.current.segments ++ [s] }, .words⟩

def addFilter (r : Reading) (f : FilterCall) : Reading :=
  ⟨r.complete, { r.current with filters := r.current.filters ++ [f] }, .words⟩

def addPlaceholder (r : Reading) (slot : Slot) (completion : Option Text) :
    Except ParseError Reading :=
  if r.current.hasSlot slot then .error (.duplicatePlaceholder slot)
  else .ok (r.addSegment (.placeholder slot completion))

def setOutput (r : Reading) (file : Text) : Except ParseError Reading :=
  if r.current.output.isSome then .error .multipleOutputs
  else .ok ⟨r.complete, { r.current with output := some file }, .separator⟩

/-- The value of decimal digits. -/
def number (digits : Text) : Nat :=
  digits.foldl (fun n c => 10 * n + (c.toNat - '0'.toNat)) 0

/-- Numbers of placeholders have 32 bits. -/
def slotOf (text : Text) : Except ParseError Slot :=
  if text = ['*'] then .ok .wildcard
  else if number text < UInt32.size then .ok (.numbered (number text))
  else .error (.invalidPlaceholderIndex text)

def stepWords (r : Reading) (t : Token) : Except ParseError Reading :=
  match t.kind with
  | .word => .ok (r.addSegment (.literal t.text))
  | .quoted => .ok (r.addSegment (.literal (Quoted.unquote t.text)))
  | .placeholder => (slotOf t.text).map fun slot => r.expect (.completion slot)
  | .continuation => .ok (r.expect .words)
  | .pipe => .ok (r.expect .filterName)
  | .redirect => .ok (r.expect .filename)
  | .separator => .ok r.close
  | .completionType | .filename => .error (.unexpectedToken t)

def step (r : Reading) (t : Token) : Except ParseError Reading :=
  match r.expecting with
  | .statement =>
    match t.kind with
    | .word | .quoted => r.stepWords t
    | .continuation => .ok r
    | _ => .error (.unexpectedToken t)
  | .words => r.stepWords t
  | .completion slot =>
    if t.kind = .completionType then
      r.addPlaceholder slot (if t.text.isEmpty then none else some t.text)
    else (r.addPlaceholder slot none).bind fun r => r.stepWords t
  | .filterName =>
    if t.kind = .word then .ok (r.expect (.filterArgs ⟨t.text, []⟩))
    else .error .expectedFilterName
  | .filterArgs filter =>
    match t.kind with
    | .word => .ok (r.expect (.filterArgs { filter with args := filter.args ++ [t.text] }))
    | .quoted =>
      .ok (r.expect (.filterArgs { filter with args := filter.args ++ [Quoted.unquote t.text] }))
    | .continuation => .ok r
    | _ => (r.addFilter filter).stepWords t
  | .filename =>
    if t.kind = .filename then r.setOutput t.text else .error .expectedFilename
  | .separator =>
    match t.kind with
    | .separator => .ok r.close
    | .redirect => .ok (r.expect .filename)
    | _ => .error (.unexpectedToken t)

def steps (r : Reading) : List Token → Except ParseError Reading
  | [] => .ok r
  | t :: ts => (r.step t).bind fun r => steps r ts

@[simp] theorem steps_nil (r : Reading) : r.steps [] = .ok r := rfl

@[simp] theorem steps_cons (r : Reading) (t : Token) (ts : List Token) :
    r.steps (t :: ts) = (r.step t).bind fun r => r.steps ts := rfl

theorem steps_append (r : Reading) (ts us : List Token) :
    r.steps (ts ++ us) = (r.steps ts).bind fun r => r.steps us := by
  induction ts generalizing r with
  | nil => rfl
  | cons t ts ih =>
    simp only [List.cons_append, steps_cons]
    cases r.step t with
    | error e => rfl
    | ok r' => simpa [Except.bind] using ih r'

/-- What a line means that ends here. -/
def finish (r : Reading) : Except ParseError (List Statement) :=
  match r.expecting with
  | .statement | .words | .separator => .ok r.close.complete
  | .completion slot => (r.addPlaceholder slot none).map fun r => r.close.complete
  | .filterName => .error .expectedFilterName
  | .filterArgs filter => .ok (r.addFilter filter).close.complete
  | .filename => .error .expectedFilename

end Reading

/-- The statements that tokens and the failure after them stand for. -/
def Statement.ofTokens (tokens : List Token) (failure : Option ScanError) :
    Except ParseError (List Statement) :=
  (Reading.start.steps tokens).bind fun r =>
    match failure with
    | some e => .error (.scan e)
    | none => r.finish

def Statement.parse (mode : Mode) (line : Text) : Except ParseError (List Statement) :=
  let (tokens, failure) := scan mode line
  Statement.ofTokens tokens failure

end MenuLine
