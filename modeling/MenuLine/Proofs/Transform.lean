import MenuLine.Pipeline

/-!
# What a filter makes of a stream

`Program.output` is all that a filter writes, as long as nothing it writes is
refused, when it reads a stream in given chunks. A filter is steady if the
way a stream is cut makes no difference; it then stands for a function on
streams, `Program.transform`.
-/

namespace MenuLine

namespace Burst

/-- What a burst writes where everything is accepted. -/
def written : Burst σ ρ → Bytes
  | stop _ => []
  | ask _ => []
  | write chunk next => chunk ++ (next none).written

def outcome : Burst σ ρ → σ ⊕ ρ
  | stop result => .inr result
  | ask state => .inl state
  | write _ next => (next none).outcome

@[simp] theorem written_stop (result : ρ) : (stop result : Burst σ ρ).written = [] := rfl

@[simp] theorem written_ask (state : σ) : (ask state : Burst σ ρ).written = [] := rfl

@[simp] theorem written_write (chunk : Bytes) (next : Option IoError → Burst σ ρ) :
    (write chunk next).written = chunk ++ (next none).written := rfl

@[simp] theorem outcome_stop (result : ρ) : (stop result : Burst σ ρ).outcome = .inr result := rfl

@[simp] theorem outcome_ask (state : σ) : (ask state : Burst σ ρ).outcome = .inl state := rfl

@[simp] theorem outcome_write (chunk : Bytes) (next : Option IoError → Burst σ ρ) :
    (write chunk next).outcome = (next none).outcome := rfl

@[simp] theorem written_widen (b : Burst Empty ρ) : (b.widen (σ := σ)).written = b.written := by
  induction b with
  | stop result => rfl
  | ask state => exact state.elim
  | write chunk next ih => simp [ih]

theorem outcome_widen (b : Burst Empty ρ) : ∃ result, (b.widen (σ := σ)).outcome = .inr result := by
  induction b with
  | stop result => exact ⟨result, rfl⟩
  | ask state => exact state.elim
  | write chunk next ih => exact ih none

end Burst

namespace Program

variable (p : Program)

/-- All that is written from a burst on, when these chunks are read and then
the end of the stream. A filter that stops early leaves the rest unread. -/
def output : List Bytes → Burst p.State Ending → Bytes
  | [], b => b.written ++ match b.outcome with
    | .inl state => (p.finish state).written
    | .inr _ => []
  | chunk :: chunks, b => b.written ++ match b.outcome with
    | .inl state => output chunks (p.feed state chunk)
    | .inr _ => []

@[simp] theorem output_write (chunks : List Bytes) (chunk : Bytes)
    (next : Option IoError → Burst p.State Ending) :
    p.output chunks (.write chunk next) = chunk ++ p.output chunks (next none) := by
  cases chunks <;> simp [output]

@[simp] theorem output_stop (chunks : List Bytes) (ending : Ending) :
    p.output chunks (.stop ending) = [] := by
  cases chunks <;> simp [output]

@[simp] theorem output_ask_nil (state : p.State) :
    p.output [] (.ask state) = (p.finish state).written := rfl

@[simp] theorem output_ask_cons (state : p.State) (chunk : Bytes) (chunks : List Bytes) :
    p.output (chunk :: chunks) (.ask state) = p.output chunks (p.feed state chunk) := rfl

theorem output_of_outcome {p : Program} {b : Burst p.State Ending} {ending : Ending}
    (h : b.outcome = .inr ending) (chunks : List Bytes) : p.output chunks b = b.written := by
  cases chunks <;> simp [output, h]

@[simp] theorem output_widen (chunks : List Bytes) (b : Burst Empty Ending) :
    p.output chunks b.widen = b.written := by
  obtain ⟨ending, h⟩ := b.outcome_widen (σ := p.State)
  rw [output_of_outcome h, Burst.written_widen]

def inOne (stream : Bytes) : List Bytes := if stream = [] then [] else [stream]

theorem nil_notMem_inOne (stream : Bytes) : [] ∉ inOne stream := by
  unfold inOne
  split
  · simp
  · next h => simpa using Ne.symm h

@[simp] theorem flatten_inOne (stream : Bytes) : (inOne stream).flatten = stream := by
  unfold inOne
  split
  · next h => simp [h]
  · simp

/-- What is written from here on depends on the stream that is read and not
on how it is cut. -/
def SteadyFrom (b : Burst p.State Ending) : Prop :=
  ∀ cs ds : List Bytes, [] ∉ cs → [] ∉ ds → cs.flatten = ds.flatten → p.output cs b = p.output ds b

/-- What a filter writes depends on the stream that it reads and not on how
that is cut. -/
def Steady : Prop := p.SteadyFrom p.start

/-- What a filter makes of a stream. -/
def transform (stream : Bytes) : Bytes := p.output (inOne stream) p.start

def compose (ps : List Program) (stream : Bytes) : Bytes :=
  ps.foldl (fun stream p => p.transform stream) stream

@[simp] theorem compose_nil (stream : Bytes) : compose [] stream = stream := rfl

@[simp] theorem compose_cons (p : Program) (ps : List Program) (stream : Bytes) :
    compose (p :: ps) stream = compose ps (p.transform stream) := rfl

variable {p}

theorem Steady.output_eq (h : p.Steady) {chunks : List Bytes} (hchunks : [] ∉ chunks) :
    p.output chunks p.start = p.transform chunks.flatten :=
  h _ _ hchunks (nil_notMem_inOne _) (flatten_inOne _).symm

theorem steadyFrom_widen (b : Burst Empty Ending) : p.SteadyFrom b.widen := by
  intro cs ds _ _ _
  simp

theorem steadyFrom_write {chunk : Bytes} {next : Option IoError → Burst p.State Ending} :
    p.SteadyFrom (.write chunk next) ↔ p.SteadyFrom (next none) := by
  simp [SteadyFrom]

/-- A filter that has read part of a stream is steady on the rest. -/
theorem SteadyFrom.feed {state : p.State} (h : p.SteadyFrom (.ask state)) {found : Bytes}
    (hfound : found ≠ []) : p.SteadyFrom (p.feed state found) := by
  intro cs ds hcs hds heq
  have hc : [] ∉ found :: cs := by simp [hcs, Ne.symm hfound]
  have hd : [] ∉ found :: ds := by simp [hds, Ne.symm hfound]
  simpa using h (found :: cs) (found :: ds) hc hd (by simp [heq])

theorem SteadyFrom.output_feed {state : p.State} (h : p.SteadyFrom (.ask state)) {found : Bytes}
    (hfound : found ≠ []) (rest : Bytes) :
    p.output (inOne rest) (p.feed state found) = p.output (inOne (found ++ rest)) (.ask state) := by
  rw [← output_ask_cons]
  refine h _ _ ?_ (nil_notMem_inOne _) ?_
  · simp [Ne.symm hfound, nil_notMem_inOne]
  · simp

/-! ## Kinds of filters -/

theorem output_whole (work : Bytes → Burst Empty Ending) (chunks : List Bytes) (c : Collector) :
    (whole work).output chunks (.ask c) = (work (c.bytes ++ chunks.flatten)).written := by
  induction chunks generalizing c with
  | nil =>
      rw [List.flatten_nil, List.append_nil]
      rfl
  | cons chunk chunks ih =>
      calc
        _ = (work ((c.add chunk).bytes ++ chunks.flatten)).written := ih (c.add chunk)
        _ = _ := by rw [Collector.bytes_add, List.flatten_cons, List.append_assoc]

theorem steady_whole (work : Bytes → Burst Empty Ending) : (whole work).Steady := by
  intro cs ds _ _ heq
  calc
    _ = (work (Collector.empty.bytes ++ cs.flatten)).written := output_whole work cs .empty
    _ = (work (Collector.empty.bytes ++ ds.flatten)).written := by rw [heq]
    _ = _ := (output_whole work ds .empty).symm

theorem output_copy (chunks : List Bytes) : copy.output chunks copy.start = chunks.flatten := by
  induction chunks with
  | nil => rfl
  | cons chunk chunks ih =>
      calc
        _ = chunk ++ copy.output chunks copy.start := copy.output_write chunks chunk _
        _ = (chunk :: chunks).flatten := by rw [ih, List.flatten_cons]

theorem steady_copy : copy.Steady := by
  intro cs ds _ _ heq
  rw [output_copy, output_copy, heq]

theorem output_immediate (work : Burst Empty Ending) (chunks : List Bytes) :
    (immediate work).output chunks (immediate work).start = work.written := by
  have hstop : ∃ ending, (immediate work).start.outcome = .inr ending := by
    cases h : (immediate work).start.outcome with
    | inl state => exact Empty.elim state
    | inr ending => exact ⟨ending, rfl⟩
  obtain ⟨ending, h⟩ := hstop
  exact output_of_outcome h chunks

theorem steady_immediate (work : Burst Empty Ending) : (immediate work).Steady := by
  intro cs ds _ _ _
  rw [output_immediate, output_immediate]

end Program

namespace Pipeline

/-- What the filters of a chain make of a stream, in the order of the chain. -/
def filtered (filters : Table Filter) (chain : List FilterCall) (stream : Bytes) : Bytes :=
  chain.foldl (fun stream call => match filters.find? call.name with
    | none => stream
    | some filter => (filter call.args).transform stream) stream

theorem filtered_of_resolve {filters : Table Filter} {chain : List FilterCall} {ps : List Program}
    (h : resolve filters chain = .ok ps) (stream : Bytes) :
    filtered filters chain stream = Program.compose ps stream := by
  induction chain generalizing ps stream with
  | nil =>
      cases h
      rfl
  | cons call chain ih =>
      unfold resolve at h
      cases hf : filters.find? call.name with
      | none => simp [hf] at h
      | some filter =>
          cases hr : resolve filters chain with
          | error e => simp [hf, hr, Except.map] at h
          | ok qs =>
              obtain rfl : filter call.args :: qs = ps := by simpa [hf, hr, Except.map] using h
              simpa [filtered, hf] using ih hr ((filter call.args).transform stream)

end Pipeline

end MenuLine
