import MenuLine.Files.Tree
import MenuLine.Statement.Basic
import MenuLine.Stream.Program
import MenuLine.Table

/-!
# Pipelines

The output of a command, the head, runs through filters into a file or into
the caller's sink. `Line` is a chain of filters at work, the nearest to the
head first, each writing to the one after it. A chunk that is written to the
chain is carried through as far as it gets before the head goes on; the
filters depend on nothing but the bytes they read, so this order of the work
stands for every other one.
-/

namespace MenuLine

inductive PipelineError where
  | unknownFilter (name : Text)
  | filter (name : Text) (cause : IoError)
  | filterPanicked (name : Text)
  | handler (cause : IoError)
  | output (cause : IoError)
deriving DecidableEq, Repr

namespace PipelineError

def message : PipelineError → Text
  | unknownFilter name => name ++ " is not a valid filter".toList
  | filter name cause => "filter ".toList ++ name ++ " failed: ".toList ++ cause.message
  | filterPanicked name => "filter ".toList ++ name ++ " panicked".toList
  | handler cause => "command failed: ".toList ++ cause.message
  | output cause => "error writing: ".toList ++ cause.message

end PipelineError

/-- A filter at work or at its end, and what it writes to. -/
structure Stage (p : Program) (τ : Type) where
  phase : p.State ⊕ Ending
  below : τ

namespace Stage

variable {p : Program} {τ : Type} [Sink τ]

/-- A filter that returns flushes what it writes to, and a failure to do so
is its own. -/
def settle : (p.State ⊕ Ending) × τ → Stage p τ
  | (.inr .returned, below) =>
    match Sink.flush below with
    | (none, below) => ⟨.inr .returned, below⟩
    | (some e, below) => ⟨.inr (.failed e), below⟩
  | (phase, below) => ⟨phase, below⟩

def start (p : Program) (below : τ) : Stage p τ := settle (p.start.run below)

/-- A filter that has come to its end reads no more. -/
def write (s : Stage p τ) (chunk : Bytes) : Option IoError × Stage p τ :=
  if chunk = [] then (none, s)
  else match s.phase with
    | .inr _ => (some .relayClosed, s)
    | .inl state => (none, settle ((p.feed state chunk).run s.below))

instance : Sink (Stage p τ) where
  write := write
  flush s := (none, s)

/-- The end of the input: how the filter ends, and what it wrote to. -/
def close (s : Stage p τ) : Ending × τ :=
  match s.phase with
  | .inr ending => (ending, s.below)
  | .inl state =>
    match (p.finish state).complete s.below with
    | (.returned, below) =>
      match Sink.flush below with
      | (none, below) => (.returned, below)
      | (some e, below) => (.failed e, below)
    | (ending, below) => (ending, below)

end Stage

/-- Filters at work, one writing to the next and the last one to `τ`. -/
def Line (τ : Type) : List Program → Type
  | [] => τ
  | p :: ps => Stage p (Line τ ps)

namespace Line

variable {τ : Type} [Sink τ]

instance instSink : (ps : List Program) → Sink (Line τ ps)
  | [] => inferInstanceAs (Sink τ)
  | p :: ps =>
    have : Sink (Line τ ps) := instSink ps
    inferInstanceAs (Sink (Stage p (Line τ ps)))

/-- The last filter starts first, so each has somewhere to write to. -/
def start (target : τ) : (ps : List Program) → Line τ ps
  | [] => target
  | p :: ps => Stage.start p (start target ps)

/-- The ends of the filters, the nearest to the head first. -/
def close : (ps : List Program) → Line τ ps → List Ending × τ
  | [], target => ([], target)
  | _ :: ps, stage =>
    let (ending, below) := Stage.close stage
    let (endings, target) := close ps below
    (ending :: endings, target)

end Line

/-- What the head of a pipeline comes to: something to hand back, and the
failure it ended with, if it did. -/
structure HeadResult (α : Type) where
  value : α
  failure : Option IoError

abbrev Head (α : Type) := Burst Empty (HeadResult α)

namespace Pipeline

/-- A broken pipe is no failure. -/
def failureOf (name : Text) : Ending → Option PipelineError
  | .returned => none
  | .panicked => some (.filterPanicked name)
  | .failed e => if e.isBrokenPipe then none else some (.filter name e)

def headFailure (failure : Option IoError) : Option PipelineError :=
  (failure.filter (! ·.isBrokenPipe)).map .handler

/-- The failure of the head counts first, then that of the filter nearest to
the output. -/
def resultOf (head : Option IoError) (names : List Text) (endings : List Ending) :
    Option PipelineError :=
  headFailure head <|>
    ((names.zip endings).reverse.findSome? fun e => failureOf e.1 e.2)

/-- Runs a head and its filters on a target. -/
def run [Sink τ] (names : List Text) (ps : List Program) (target : τ) (head : Head α) :
    Option PipelineError × α × τ :=
  let (result, line) := head.complete (Line.start target ps)
  let (failure, line) :=
    match result.failure with
    | some e => (some e, line)
    | none => Sink.flush line
  let (endings, target) := Line.close ps line
  (resultOf failure names endings, result.value, target)

/-- The filters of a chain, or the first name that is not known. -/
def resolve (filters : Table Filter) : List FilterCall → Except PipelineError (List Program)
  | [] => .ok []
  | call :: calls =>
    match filters.find? call.name with
    | none => .error (.unknownFilter call.name)
    | some filter => (resolve filters calls).map (filter call.args :: ·)

/-- What a pipeline leaves behind. The head gives nothing where it was not
run. -/
structure Execution (α τ : Type) where
  failure : Option PipelineError
  value : Option α
  sink : τ
  files : FileTree

/-- Runs into the caller's sink. -/
def intoSink [Sink τ] (names : List Text) (ps : List Program) (files : FileTree) (sink : τ)
    (head : Head α) : Execution α τ :=
  let (failure, value, sink) := run names ps sink head
  ⟨failure, some value, sink, files⟩

/-- Runs into the file at `place`, which has just been made. -/
def intoFile (names : List Text) (ps : List Program) (place : Location) (files : FileTree)
    (sink : τ) (head : Head α) : Execution α τ :=
  let (failure, value, written) := run names ps Collector.empty head
  ⟨failure, some value, sink, files.put place (.file written.bytes)⟩

/-- Every name of the chain is looked up before anything happens. An output
file that cannot be made is reported on the sink, which then takes the output
itself. The head sees the files as they are when it starts. -/
def execute [Sink τ] (filters : Table Filter) (chain : List FilterCall) (output : Option Text)
    (files : FileTree) (sink : τ) (head : FileTree → Head α) : Execution α τ :=
  match resolve filters chain with
  | .error e => ⟨some e, none, sink, files⟩
  | .ok ps =>
    let names := chain.map FilterCall.name
    match output with
    | none => intoSink names ps files sink (head files)
    | some path =>
      match files.create path with
      | .ok (place, files) => intoFile names ps place files sink (head files)
      | .error e =>
        match Sink.writeLine sink ("error writing: ".toList ++ e.message) with
        | (some e, sink) => ⟨some (.output e), none, sink, files⟩
        | (none, sink) => intoSink names ps files sink (head files)

end Pipeline

end MenuLine
