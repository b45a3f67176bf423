import MenuLine.Stream.Sink

/-!
# Programs on streams

A command writes and comes to an end; a filter also reads. Between two reads
a program does a finite burst of work: it writes chunks, hears whether each
was accepted, and then asks for more input or stops. What a filter does
depends on the bytes it has read and on the fate of its own writes, and on
nothing else.
-/

namespace MenuLine

/-- A burst of work that ends in a state that waits for input, or in a
result. -/
inductive Burst (σ ρ : Type) where
  | stop (result : ρ)
  | ask (state : σ)
  | write (chunk : Bytes) (next : Option IoError → Burst σ ρ)

namespace Burst

/-- Writes and goes on, whatever becomes of it. -/
def emit (chunk : Bytes) (next : Burst σ ρ) : Burst σ ρ := write chunk fun _ => next

/-- Writes and goes on if that was accepted. -/
def emitOr (failed : IoError → ρ) (chunk : Bytes) (next : Burst σ ρ) : Burst σ ρ :=
  write chunk fun
    | none => next
    | some e => stop (failed e)

/-- Writes the chunks in order and stops at the first failure. -/
def emitAllOr (failed : IoError → ρ) (chunks : List Bytes) (next : Burst σ ρ) : Burst σ ρ :=
  chunks.foldr (emitOr failed) next

/-- Carries a burst out on a sink. -/
def run [Sink τ] : Burst σ ρ → τ → (σ ⊕ ρ) × τ
  | stop result, sink => (.inr result, sink)
  | ask state, sink => (.inl state, sink)
  | write chunk next, sink =>
    let (e, sink) := Sink.write sink chunk
    (next e).run sink

@[simp] theorem run_stop [Sink τ] (result : ρ) (sink : τ) :
    (stop result : Burst σ ρ).run sink = (.inr result, sink) := rfl

@[simp] theorem run_ask [Sink τ] (state : σ) (sink : τ) :
    (ask state : Burst σ ρ).run sink = (.inl state, sink) := rfl

@[simp] theorem run_write [Sink τ] (chunk : Bytes) (next : Option IoError → Burst σ ρ) (sink : τ) :
    (write chunk next).run sink =
      (next (Sink.write sink chunk).1).run (Sink.write sink chunk).2 := rfl

/-- A burst that never asks for input, among those that may. -/
def widen : Burst Empty ρ → Burst σ ρ
  | stop result => stop result
  | write chunk next => write chunk fun e => (next e).widen

@[simp] theorem widen_stop (result : ρ) : (stop result : Burst Empty ρ).widen (σ := σ) =
    stop result := rfl

@[simp] theorem widen_write (chunk : Bytes) (next : Option IoError → Burst Empty ρ) :
    (write chunk next).widen (σ := σ) = write chunk fun e => (next e).widen := rfl

/-- A burst that never asks for input ends in its result. -/
def complete [Sink τ] (b : Burst Empty ρ) (sink : τ) : ρ × τ :=
  match b.run sink with
  | (.inr result, sink) => (result, sink)

end Burst

/-- How a filter comes to its end. -/
inductive Ending where
  | returned
  | failed (e : IoError)
  | panicked
deriving DecidableEq, Repr

/-- A filter at work. `feed` goes on with more input, which is never empty,
and `finish` with the end of the input. -/
structure Program where
  State : Type
  start : Burst State Ending
  feed : State → Bytes → Burst State Ending
  finish : State → Burst Empty Ending

namespace Program

/-- Reads all input and then works on it. -/
def whole (work : Bytes → Burst Empty Ending) : Program where
  State := Collector
  start := .ask .empty
  feed c chunk := .ask (c.add chunk)
  finish c := work c.bytes

/-- Hands every chunk on as it comes. -/
def copy : Program where
  State := Unit
  start := .ask ()
  feed _ chunk := .emitOr .failed chunk (.ask ())
  finish _ := .stop .returned

/-- Comes to an end without reading. -/
def immediate (work : Burst Empty Ending) : Program where
  State := Empty
  start := work
  feed state := nomatch state
  finish state := nomatch state

end Program

/-- A filter is given the words after its name. -/
abbrev Filter := List Text → Program

end MenuLine
