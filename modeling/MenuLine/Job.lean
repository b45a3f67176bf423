import Mathlib.Logic.Relation
import MenuLine.Network
import MenuLine.Pipeline

/-!
# Jobs

A job is a pipeline at work together with its caller, who runs the head and
then waits for the filters, one by one in the order in which they were started:
the one nearest to the output first. Meanwhile the network takes its steps in
any order, so the filters come to their ends in any order, too.
`Pipeline.Executes` relates what `execute` is given to all that it can come to;
`Pipeline.execute` itself is one of these.
-/

namespace MenuLine

/-- The filter at a place of the chain has come to its end and let go of both
its relays. -/
inductive Chain.Left {τ : Type} : Chain τ → Nat → Ending → Prop where
  | here {p : Program} {relay : Relay} {ending : Ending} {below : Chain τ}
      (hreader : relay.readerOpen = false) (hreleased : below.Released) :
      Left (stage p relay (.ended ending) below) 0 ending
  | deeper {p : Program} {relay : Relay} {activity : Activity p.State Ending} {below : Chain τ}
      {i : Nat} {ending : Ending} (h : below.Left i ending) :
      Left (stage p relay activity below) (i + 1) ending

/-- What the caller does. -/
inductive Caller where
  /-- It runs the head, in front of filters of these names. -/
  | running (names : List Text)
  /-- It waits for the filters of these names, of which the last is the next. -/
  | joining (names : List Text) (failure : Option PipelineError)

structure Job (α τ : Type) where
  network : Network α τ
  caller : Caller

namespace Job

variable {α τ : Type}

def start (names : List Text) (ps : List Program) (target : τ) (head : Head α) : Job α τ :=
  ⟨.start ps target head, .running names⟩

variable [Sink τ]

/-- The caller keeps the first failure that it comes to know. -/
inductive Step : Job α τ → Job α τ → Prop where
  | work {n m : Network α τ} {caller : Caller} (h : Network.Step n m) :
      Step ⟨n, caller⟩ ⟨m, caller⟩
  | turn {result : HeadResult α} {chain : Chain τ} {names : List Text} (h : chain.Released) :
      Step ⟨⟨.ended result, chain⟩, .running names⟩
        ⟨⟨.ended result, chain⟩, .joining names (Pipeline.headFailure result.failure)⟩
  | join {n : Network α τ} {names : List Text} {name : Text} {failure : Option PipelineError}
      {ending : Ending} (h : n.chain.Left names.length ending) :
      Step ⟨n, .joining (names ++ [name]) failure⟩
        ⟨n, .joining names (failure <|> Pipeline.failureOf name ending)⟩

abbrev Run : Job α τ → Job α τ → Prop := Relation.ReflTransGen Step

/-- How the head and the filters of a chain ended, their last flushes included. -/
structure Ends where
  head : Option IoError
  filters : List Ending

/-- The ends that a head and its filters can come to on a target, and what the
caller then has: a failure, the value of the head and the target. -/
inductive Returns (names : List Text) (ps : List Program) (target : τ) (head : Head α) :
    Ends → Option PipelineError × α × τ → Prop where
  | mk {n : Network α τ} {result : HeadResult α} {failure : Option PipelineError}
      (run : Run (start names ps target head) ⟨n, .joining [] failure⟩)
      (hhead : n.head = .ended result) :
      Returns names ps target head ⟨result.failure, n.chain.endings⟩
        (failure, result.value, n.chain.sink)

end Job

namespace Pipeline

variable {α τ : Type} [Sink τ]

/-- What can come of a chain of filters, with the ends of the head and of the
filters if they were run. -/
inductive Executes (filters : Table Filter) (chain : List FilterCall) (output : Option Text)
    (files : FileTree) (sink : τ) (head : FileTree → Head α) :
    Option Job.Ends → Execution α τ → Prop where
  | refused {e : PipelineError} (hresolve : resolve filters chain = .error e) :
      Executes filters chain output files sink head none ⟨some e, none, sink, files⟩
  | intoSink {ps : List Program} {ends : Job.Ends} {failure : Option PipelineError} {value : α}
      {last : τ} (hresolve : resolve filters chain = .ok ps) (houtput : output = none)
      (h : Job.Returns (chain.map FilterCall.name) ps sink (head files) ends
        (failure, value, last)) :
      Executes filters chain output files sink head (some ends) ⟨failure, some value, last, files⟩
  | intoFile {ps : List Program} {path : Text} {place : Location} {made : FileTree}
      {ends : Job.Ends} {failure : Option PipelineError} {value : α} {written : Collector}
      (hresolve : resolve filters chain = .ok ps) (houtput : output = some path)
      (hcreate : files.create path = .ok (place, made))
      (h : Job.Returns (chain.map FilterCall.name) ps Collector.empty (head made) ends
        (failure, value, written)) :
      Executes filters chain output files sink head (some ends)
        ⟨failure, some value, sink, made.put place (.file written.bytes)⟩
  | unreported {ps : List Program} {path : Text} {cause e : IoError} {told : τ}
      (hresolve : resolve filters chain = .ok ps) (houtput : output = some path)
      (hcreate : files.create path = .error cause)
      (hreport : Sink.writeLine sink ("error writing: ".toList ++ cause.message) =
        (some e, told)) :
      Executes filters chain output files sink head none ⟨some (.output e), none, told, files⟩
  | fallback {ps : List Program} {path : Text} {cause : IoError} {told last : τ}
      {ends : Job.Ends} {failure : Option PipelineError} {value : α}
      (hresolve : resolve filters chain = .ok ps) (houtput : output = some path)
      (hcreate : files.create path = .error cause)
      (hreport : Sink.writeLine sink ("error writing: ".toList ++ cause.message) = (none, told))
      (h : Job.Returns (chain.map FilterCall.name) ps told (head files) ends
        (failure, value, last)) :
      Executes filters chain output files sink head (some ends) ⟨failure, some value, last, files⟩

end Pipeline

end MenuLine
