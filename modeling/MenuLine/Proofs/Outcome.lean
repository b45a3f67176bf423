import MenuLine.Proofs.Joining
import MenuLine.Proofs.Progress
import MenuLine.Proofs.Thorough

/-!
# What comes of a pipeline

A filter that reads all of its input comes to its end only after what writes to
it has, so nothing that is written to it is ever refused. Where all filters of a
pipeline do so, all can be foretold that comes of it, whatever the order of the
steps: the value of the head, what the target gets, and how the filters end. The
main statement is `Job.Returns.eq_of_thorough`.
-/

namespace MenuLine

/-- Nothing is left to be read, and nothing will come. -/
structure Relay.Exhausted (r : Relay) : Prop where
  writerGone : r.writerOpen = false
  pending : r.pending = []

theorem Relay.Exhausted.not_writerOpen {r : Relay} (h : r.Exhausted) : ¬ r.writerOpen = true := by
  simp [h.writerGone]

/-- No flush fails. -/
def Sink.Flushes (τ : Type) [Sink τ] : Prop := ∀ sink : τ, (Sink.flush sink).1 = none

namespace Chain

variable {τ : Type}

/-- How the filters will have ended once the chain is given this stream. -/
def foretold : Chain τ → Bytes → List Ending
  | target _, _ => []
  | stage p relay (.working b) below, stream =>
    p.ending (Program.inOne (relay.pending ++ stream)) b ::
      below.foretold (p.output (Program.inOne (relay.pending ++ stream)) b)
  | stage _ _ (.ended ending) below, _ => ending :: below.foretold []

/-- A filter at work will read all of this stream, or it has read all there
was. -/
def Works (p : Program) (relay : Relay) (b : Burst p.State Ending) (stream : Bytes) : Prop :=
  p.ThoroughFrom b stream ∨ relay.Exhausted ∧ ∃ ending, b.outcome = .inr ending

/-- A chain that is going to be given this stream, where each filter reads all of
its input: at work it holds on to both its relays, and at its end it has left
nothing behind. -/
inductive Diligent : Chain τ → Bytes → Prop where
  | target (sink : τ) (stream : Bytes) : Diligent (target sink) stream
  | working {p : Program} {relay : Relay} {b : Burst p.State Ending} {below : Chain τ}
      {stream : Bytes} (hreads : relay.readerOpen = true) (hholds : ¬ below.Abandoned)
      (hworks : Works p relay b (relay.pending ++ stream))
      (hbelow : below.Diligent (p.output (Program.inOne (relay.pending ++ stream)) b)) :
      Diligent (stage p relay (.working b) below) stream
  | ended {p : Program} {relay : Relay} {ending : Ending} {below : Chain τ} {stream : Bytes}
      (hexhausted : relay.Exhausted) (hbelow : below.Diligent []) :
      Diligent (stage p relay (.ended ending) below) stream

variable {p : Program} {relay relay' : Relay} {activity : Activity p.State Ending}
  {below after c d : Chain τ} {x y : Bytes} {seen : τ → Bytes}

theorem Works.thorough {b : Burst p.State Ending} (h : Works p relay b x)
    (hwriter : relay.writerOpen = true) : p.ThoroughFrom b x :=
  h.resolve_right fun hdone => hdone.1.not_writerOpen hwriter

theorem Diligent.readerOpen (hc : (stage p relay activity below).Diligent x)
    (hwriter : relay.writerOpen = true) : relay.readerOpen = true := by
  cases hc with
  | working hreads _ _ _ => exact hreads
  | ended hexhausted _ => exact absurd hwriter hexhausted.not_writerOpen

/-- A chain before and after some steps, with what it is going to be given. How a
filter ends depends on the last flush as well. -/
structure Followed [Sink τ] (seen : τ → Bytes) (c : Chain τ) (x : Bytes) (d : Chain τ)
    (y : Bytes) : Prop where
  diligent : d.Diligent y
  result : d.result seen y = c.result seen x
  foretold : Sink.Flushes τ → d.foretold y = c.foretold x

theorem foretold_of_finished (h : c.Finished) (x : Bytes) : c.foretold x = c.endings := by
  induction c generalizing x with
  | target sink => rfl
  | stage p relay activity below ih =>
      obtain ⟨⟨ending, rfl⟩, -, -, hbelow⟩ := h
      exact congrArg (ending :: ·) (ih hbelow [])

theorem diligent_start (sink : τ) {ps : List Program} (hps : Program.Thorough ps x) :
    (start sink ps).Diligent x := by
  induction ps generalizing x with
  | nil => exact .target sink x
  | cons p ps ih => exact .working rfl (coupled_start sink ps).2 (.inl hps.1) (ih hps.2)

theorem foretold_start (sink : τ) (ps : List Program) (x : Bytes) :
    (start sink ps).foretold x = Program.endings ps x := by
  induction ps generalizing x with
  | nil => rfl
  | cons p ps ih => exact congrArg (_ :: ·) (ih (p.transform x))

variable [Sink τ]

theorem Followed.refl (hc : c.Diligent x) : Followed seen c x c x :=
  ⟨hc, rfl, fun _ => rfl⟩

theorem Followed.trans (h : Followed seen c x d y) {e : Chain τ} {z : Bytes}
    (h' : Followed seen d y e z) : Followed seen c x e z :=
  ⟨h'.diligent, h'.result.trans h.result,
    fun hflush => (h'.foretold hflush).trans (h.foretold hflush)⟩

theorem Diligent.dropWriter (hc : c.Diligent x) (h : c.dropWriter? = some d) :
    Followed seen c x d x := by
  cases c with
  | target sink => cases h
  | stage p relay activity below =>
      simp only [dropWriter?] at h
      split at h
      · cases h
        cases hc with
        | working hreads hholds hworks hbelow =>
            refine ⟨.working hreads hholds (hworks.imp_right ?_) hbelow, rfl, fun _ => rfl⟩
            rintro ⟨hexhausted, hending⟩
            exact ⟨⟨rfl, hexhausted.pending⟩, hending⟩
        | ended hexhausted hbelow =>
            exact ⟨.ended ⟨rfl, hexhausted.pending⟩ hbelow, rfl, fun _ => rfl⟩
      · cases h

/-! ## One step of a filter -/

/-- What is written to a chain that has not been let go of is accepted. -/
theorem Diligent.write (hseen : Sink.Accepting seen) {chunk : Bytes}
    (hc : c.Diligent (chunk ++ x)) (hholds : ¬ c.Abandoned) {e : Option IoError}
    (h : c.write? chunk = some (e, d)) :
    e = none ∧ ¬ d.Abandoned ∧ Followed seen c (chunk ++ x) d x := by
  cases c with
  | target sink =>
      cases h
      refine ⟨hseen.write_fst sink chunk, hholds, .target _ _, ?_, fun _ => rfl⟩
      simp [Chain.result, hseen.seen_write]
  | stage p relay activity below =>
      -- The reader goes away only after its writer has, so the relay does not refuse.
      have hwriter : relay.writerOpen = true := by simpa [Abandoned] using hholds
      have hreader := hc.readerOpen hwriter
      obtain ⟨⟨result, after⟩, hwrite, he⟩ := Option.map_eq_some_iff.1 h
      obtain ⟨rfl, rfl, rfl⟩ | ⟨-, hgone, -, -⟩ | ⟨-, -, -, rfl, rfl⟩ :=
        Relay.write?_cases hwrite
      · cases he
        exact ⟨rfl, hholds, .refl hc⟩
      · rw [hreader] at hgone
        cases hgone
      · cases he
        cases hc with
        | working hreads hholds' hworks hbelow =>
            have hpending : (relay.enqueue chunk).pending ++ x = relay.pending ++ (chunk ++ x) := by
              simp
            refine ⟨rfl, hholds, .working hreads hholds' ?_ ?_, ?_, fun _ => ?_⟩
            · rw [hpending]
              exact .inl (hworks.thorough hwriter)
            · rwa [hpending]
            · rw [Chain.result, Chain.result, hpending]
            · rw [Chain.foretold, Chain.foretold, hpending]
        | ended hexhausted hbelow => exact absurd hwriter hexhausted.not_writerOpen

theorem followed_write (hseen : Sink.Accepting seen) {chunk : Bytes}
    {next : Option IoError → Burst p.State Ending} {e : Option IoError}
    (hc : (stage p relay (.working (.write chunk next)) below).Diligent x)
    (h : below.write? chunk = some (e, after)) :
    Followed seen (stage p relay (.working (.write chunk next)) below) x
      (stage p relay (.working (next e)) after) x := by
  cases hc with
  | working hreads hholds hworks hbelow =>
      rw [Program.output_write] at hbelow
      obtain ⟨rfl, habandoned, hafter⟩ := hbelow.write hseen hholds h
      refine ⟨.working hreads habandoned (hworks.imp .write id) hafter.diligent, ?_,
        fun hflush => ?_⟩
      · rw [Chain.result, Chain.result, hafter.result, Program.output_write]
      · rw [foretold, foretold, hafter.foretold hflush, Program.output_write,
          Program.ending_write]

theorem followed_read {state : p.State} {size : Nat} {found : Bytes} (hfound : found ≠ [])
    (hc : (stage p relay (.working (.ask state)) below).Diligent x)
    (h : relay.read? size = some (found, relay')) :
    Followed seen (stage p relay (.working (.ask state)) below) x
      (stage p relay' (.working (p.feed state found)) below) x := by
  cases hc with
  | working hreads hholds hworks hbelow =>
      obtain ⟨-, hr⟩ := Relay.read?_ends h
      have hpending : relay.pending ++ x = found ++ (relay'.pending ++ x) := by
        rw [← Relay.read_append_pending h, List.append_assoc]
      have hthorough : p.ThoroughFrom (.ask state) (found ++ (relay'.pending ++ x)) := by
        rw [← hpending]
        -- A filter that asks for more is not on its way to its end.
        refine hworks.resolve_right ?_
        rintro ⟨-, ending, hending⟩
        cases hending
      have houtput := hthorough.output_feed hfound (Program.nil_notMem_inOne _)
        (Program.flatten_inOne _)
      have hending := hthorough.ending_feed hfound (Program.nil_notMem_inOne _)
        (Program.flatten_inOne _)
      rw [← hpending] at houtput hending
      refine ⟨.working (hr.trans hreads) hholds (.inl (hthorough.feed hfound)) ?_, ?_, fun _ => ?_⟩
      · rwa [houtput]
      · rw [Chain.result, Chain.result, houtput]
      · rw [foretold, foretold, houtput, hending]

theorem followed_readEnd {state : p.State} {size : Nat} (hsize : 0 < size)
    (hc : (stage p relay (.working (.ask state)) below).Diligent x)
    (hx : relay.writerOpen = false → x = []) (h : relay.read? size = some ([], relay')) :
    Followed seen (stage p relay (.working (.ask state)) below) x
      (stage p relay' (.working (p.finish state).widen) below) x := by
  cases hc with
  | working hreads hholds hworks hbelow =>
      obtain ⟨hw, hr⟩ := Relay.read?_ends h
      obtain ⟨hclosed, hpending⟩ := Relay.read_nil hsize h
      have hexhausted : relay'.Exhausted :=
        ⟨hw.trans hclosed, (Relay.read_append_pending h).trans hpending⟩
      have hending := Burst.outcome_widen_eq (p.finish state) (σ := p.State)
      have houtput : p.output (Program.inOne (relay'.pending ++ x)) (p.finish state).widen =
          p.output (Program.inOne (relay.pending ++ x)) (.ask state) := by
        rw [hpending, hx hclosed, Program.output_widen]
        rfl
      refine ⟨.working (hr.trans hreads) hholds (.inr ⟨hexhausted, _, hending⟩) ?_, ?_, fun _ => ?_⟩
      · rwa [houtput]
      · rw [Chain.result, Chain.result, houtput]
      · rw [foretold, foretold, houtput, Program.ending_of_outcome hending, hpending, hx hclosed]
        rfl

theorem followed_flush (hseen : Sink.Accepting seen) (hc : c.Diligent x) :
    Followed seen c x c.flush.2 x := by
  cases c with
  | target sink =>
      refine ⟨.target _ _, ?_, fun _ => rfl⟩
      simp [Chain.flush, Chain.result, hseen.seen_flush]
  | stage p relay activity below => exact .refl hc

theorem flush_fst (hflush : Sink.Flushes τ) (c : Chain τ) : c.flush.1 = none := by
  cases c with
  | target sink => exact hflush sink
  | stage p relay activity below => rfl

theorem followed_conclude (hseen : Sink.Accepting seen) (hc : c.Diligent x) (ending : Ending) :
    Followed seen c x (c.conclude ending).2 x := by
  rcases conclude_snd ending c with h | h
  · rw [h]
    exact .refl hc
  · rw [h]
    exact followed_flush hseen hc

theorem conclude_fst (hflush : Sink.Flushes τ) (ending : Ending) (c : Chain τ) :
    (c.conclude ending).1 = ending := by
  cases ending with
  | returned =>
      have hnone := flush_fst hflush c
      rcases hf : c.flush with ⟨_ | e, d⟩
      · simp [conclude, hf]
      · rw [hf] at hnone
        cases hnone
  | failed e => rfl
  | panicked => rfl

theorem followed_stop (hseen : Sink.Accepting seen) {ending : Ending}
    (hc : (stage p relay (.working (.stop ending)) below).Diligent x) :
    Followed seen (stage p relay (.working (.stop ending)) below) x
      (stage p relay (.ended (conclude ending below).1) (conclude ending below).2) x := by
  cases hc with
  | working hreads hholds hworks hbelow =>
      rw [Program.output_stop] at hbelow
      have hafter := followed_conclude hseen hbelow ending
      have hexhausted : relay.Exhausted := by
        rcases hworks with hthorough | ⟨hexhausted, -⟩
        · -- A filter that has not read all of its input does not stop.
          obtain ⟨state, hstate⟩ := hthorough.exists_state
          cases hstate
        · exact hexhausted
      refine ⟨.ended hexhausted hafter.diligent, ?_, fun hflush => ?_⟩
      · rw [Chain.result, Chain.result, Program.output_stop, hafter.result]
      · rw [foretold, foretold, conclude_fst hflush, Program.output_stop,
          hafter.foretold hflush, Program.ending_of_outcome rfl]

/-- Only its writer can let go of a chain. -/
theorem Step.abandoned (h : Step c d) : d.Abandoned ↔ c.Abandoned := by
  cases h with
  | read _ _ h => simp [Abandoned, (Relay.read?_ends h).1]
  | readEnd _ h => simp [Abandoned, (Relay.read?_ends h).1]
  | write _ => exact Iff.rfl
  | stop => exact Iff.rfl
  | dropReader _ => exact Iff.rfl
  | dropWriter _ _ => exact Iff.rfl
  | deeper _ => exact Iff.rfl

/-- By induction on the step. A chain whose writer is gone is not given anything
more. -/
theorem Step.followed (hseen : Sink.Accepting seen) (h : Step c d) (hc : c.Diligent x)
    (hx : c.Abandoned → x = []) : Followed seen c x d x := by
  induction h generalizing x with
  | write h => exact followed_write hseen hc h
  | read hsize hfound h => exact followed_read hfound hc h
  | readEnd hsize h => exact followed_readEnd hsize hc hx h
  | stop => exact followed_stop hseen hc
  | dropReader h =>
      cases hc with
      | ended hexhausted hbelow =>
          exact ⟨.ended ⟨hexhausted.writerGone, hexhausted.pending⟩ hbelow, rfl, fun _ => rfl⟩
  | dropWriter _ h =>
      cases hc with
      | ended hexhausted hbelow =>
          have hafter : Followed seen _ [] _ [] := hbelow.dropWriter h
          refine ⟨.ended hexhausted hafter.diligent, hafter.result, fun hflush => ?_⟩
          rw [foretold, foretold, hafter.foretold hflush]
  | deeper h ih =>
      cases hc with
      | working hreads hholds hworks hbelow =>
          have hafter := ih hbelow fun ha => absurd ha hholds
          have hholds' := mt h.abandoned.1 hholds
          refine ⟨.working hreads hholds' hworks hafter.diligent, hafter.result, fun hflush => ?_⟩
          rw [foretold, foretold, hafter.foretold hflush]
      | ended hexhausted hbelow =>
          have hafter := ih hbelow fun _ => rfl
          refine ⟨.ended hexhausted hafter.diligent, hafter.result, fun hflush => ?_⟩
          rw [foretold, foretold, hafter.foretold hflush]

end Chain

namespace Network

variable {α τ : Type}

/-- What the head will have come to. -/
def due : Activity Empty (HeadResult α) → HeadResult α
  | .working b => b.result
  | .ended result => result

/-- What no step breaks where all filters read all of their input. -/
structure Diligent (n : Network α τ) : Prop where
  chain : n.chain.Diligent (remaining n.head)
  head : n.chain.Abandoned → ∃ result, n.head = .ended result

/-- A network before and after some steps. How the head ends depends on the last
flush as well. -/
structure Followed [Sink τ] (seen : τ → Bytes) (n m : Network α τ) : Prop where
  chain : n.chain.Followed seen (remaining n.head) m.chain (remaining m.head)
  head : m.chain.Abandoned → ∃ result, m.head = .ended result
  value : (due m.head).value = (due n.head).value
  due : Sink.Flushes τ → due m.head = due n.head

theorem diligent_start {ps : List Program} {head : Head α} (hps : Program.Thorough ps head.written)
    (target : τ) : (start ps target head).Diligent :=
  ⟨Chain.diligent_start target hps, fun ha => absurd ha (Chain.coupled_start target ps).2⟩

theorem Diligent.remaining_eq_nil {n : Network α τ} (hn : n.Diligent) (ha : n.chain.Abandoned) :
    remaining n.head = [] := by
  obtain ⟨result, hhead⟩ := hn.head ha
  rw [hhead]
  rfl

variable [Sink τ] {seen : τ → Bytes} {n m : Network α τ}

theorem conclude_fst (hflush : Sink.Flushes τ) (result : HeadResult α) (chain : Chain τ) :
    (conclude result chain).1 = result := by
  obtain ⟨value, failure⟩ := result
  cases failure with
  | some e => rfl
  | none => simp [conclude, Chain.flush_fst hflush]

theorem Step.followed (hseen : Sink.Accepting seen) (h : Step n m) (hn : n.Diligent) :
    Followed seen n m := by
  cases h with
  | @write chunk next chain after e h =>
      have hholds : ¬ chain.Abandoned := by
        intro ha
        obtain ⟨result, hhead⟩ := hn.head ha
        cases hhead
      obtain ⟨rfl, habandoned, hafter⟩ := Chain.Diligent.write hseen hn.chain hholds h
      exact ⟨hafter, fun ha => absurd ha habandoned, rfl, fun _ => rfl⟩
  | @stop result chain =>
      have hafter : chain.Followed seen [] (conclude result chain).2 [] := by
        rcases conclude_snd result chain with h | h
        · rw [h]
          exact .refl hn.chain
        · rw [h]
          exact Chain.followed_flush hseen hn.chain
      exact ⟨hafter, fun _ => ⟨_, rfl⟩, conclude_value result chain,
        fun hflush => conclude_fst hflush result chain⟩
  | leave h => exact ⟨hn.chain.dropWriter h, fun _ => ⟨_, rfl⟩, rfl, fun _ => rfl⟩
  | chain h =>
      exact ⟨h.followed hseen hn.chain hn.remaining_eq_nil, fun ha => hn.head (h.abandoned.1 ha),
        rfl, fun _ => rfl⟩

theorem Run.followed (hseen : Sink.Accepting seen) (run : Run n m) (hn : n.Diligent) :
    Followed seen n m := by
  induction run with
  | refl => exact ⟨.refl hn.chain, hn.head, rfl, fun _ => rfl⟩
  | tail _ hstep ih =>
      have hlater := hstep.followed hseen ⟨ih.chain.diligent, ih.head⟩
      exact ⟨ih.chain.trans hlater.chain, hlater.head, hlater.value.trans ih.value,
        fun hflush => (hlater.due hflush).trans (ih.due hflush)⟩

end Network

namespace Job

variable {α τ : Type} [Sink τ] {names : List Text} {j k : Job α τ}

/-- Without its caller a job is a network at work. -/
theorem Run.network (run : Run j k) : Network.Run j.network k.network := by
  induction run with
  | refl => exact .refl
  | tail _ hstep ih =>
      cases hstep with
      | work h => exact ih.tail h
      | turn _ => exact ih
      | join _ => exact ih

/-- All that comes of a head and of filters that read all of their input, in
whatever order they take their steps. The value of the head and what the target
gets do not depend on flushes. -/
theorem Returns.eq_of_thorough {seen : τ → Bytes} (hseen : Sink.Accepting seen)
    {ps : List Program} {head : Head α} (hps : Program.Thorough ps head.written)
    (hlength : ps.length = names.length) {target last : τ} {ends : Ends}
    {failure : Option PipelineError} {value : α}
    (h : Returns names ps target head ends (failure, value, last)) :
    value = head.result.value ∧ seen last = seen target ++ Program.compose ps head.written ∧
      (Sink.Flushes τ → failure =
        Pipeline.resultOf head.result.failure names (Program.endings ps head.written)) := by
  cases h with
  | @mk n result _ run hhead =>
      have hnetwork : Network.Run (.start ps target head) n := run.network
      have hfollowed := hnetwork.followed hseen (Network.diligent_start hps target)
      obtain ⟨hfinished, -, result', hhead', hfailure⟩ := run.joined hlength
      cases hhead.symm.trans hhead'
      have hvalue := hfollowed.value
      rw [hhead] at hvalue
      refine ⟨hvalue, ?_, fun hflush => ?_⟩
      · calc
          seen n.chain.sink = n.chain.result seen (Network.remaining n.head) := by
            rw [hhead, Network.remaining, Chain.result_of_finished hfinished]
          _ = (Chain.start target ps).result seen head.written := hfollowed.chain.result
          _ = _ := Chain.result_start target ps head.written
      · have hdue : result = head.result := by
          have hdue := hfollowed.due hflush
          rwa [hhead] at hdue
        have hendings : n.chain.endings = Program.endings ps head.written := by
          rw [← Chain.foretold_of_finished hfinished, hfollowed.chain.foretold hflush]
          exact Chain.foretold_start target ps head.written
        rw [hfailure, hdue, hendings]

end Job

end MenuLine
