import MenuLine.Proofs.Grep
import MenuLine.Proofs.Network

/-!
# The order of `Pipeline.run`

`Pipeline.run` carries each chunk through the filters as far as it gets
before the head goes on. That is one of the orders in which a network may
take its steps, so some order brings every network to its end, and all of
them deliver what `Pipeline.run` does.
-/

namespace MenuLine

namespace Burst

def ofOutcome : σ ⊕ ρ → Burst σ ρ
  | .inl state => ask state
  | .inr result => stop result

theorem run_widen [Sink τ] (b : Burst Empty ρ) (sink : τ) :
    (b.widen (σ := σ)).run sink = (.inr (b.complete sink).1, (b.complete sink).2) := by
  induction b generalizing sink with
  | stop result => rfl
  | ask state => exact state.elim
  | write chunk next ih => exact ih _ _

end Burst

/-- A filter that returns flushes its sink, and a failure to do so is its own. -/
def Sink.conclude [Sink τ] (ending : Ending) (sink : τ) : Ending × τ :=
  match ending with
  | .returned =>
    match Sink.flush sink with
    | (none, sink) => (.returned, sink)
    | (some e, sink) => (.failed e, sink)
  | ending => (ending, sink)

namespace Stage

variable {p : Program} {τ : Type} [Sink τ]

theorem settle_inr (ending : Ending) (below : τ) :
    (settle (.inr ending, below) : Stage p τ) =
      ⟨.inr (Sink.conclude ending below).1, (Sink.conclude ending below).2⟩ := by
  cases ending with
  | returned =>
      rcases hf : Sink.flush below with ⟨_ | e, after⟩ <;> simp [settle, Sink.conclude, hf]
  | failed e => rfl
  | panicked => rfl

theorem close_inl (state : p.State) (below : τ) :
    (⟨.inl state, below⟩ : Stage p τ).close =
      Sink.conclude ((p.finish state).complete below).1 ((p.finish state).complete below).2 := by
  rcases hc : (p.finish state).complete below with ⟨_ | e | _, after⟩
  · rcases hf : Sink.flush after with ⟨_ | e, last⟩ <;> simp [close, Sink.conclude, hc, hf]
  · simp [close, Sink.conclude, hc]
  · simp [close, Sink.conclude, hc]

end Stage

namespace Chain

variable {τ : Type}

def release : Chain τ → Chain τ
  | target sink => target sink
  | stage p relay activity below => stage p relay.dropWriter activity below

variable [Sink τ]

abbrev Run : Chain τ → Chain τ → Prop := Relation.ReflTransGen Step

theorem Run.deeper {c d : Chain τ} (run : Run c d) (p : Program) (relay : Relay)
    (activity : Activity p.State Ending) :
    Run (stage p relay activity c) (stage p relay activity d) :=
  Relation.ReflTransGen.lift (fun below => stage p relay activity below)
    (fun _ _ h => Step.deeper h) _ _ run

end Chain

namespace Line

variable {τ : Type}

/-- A chain stands where a line does: every filter that has not come to its
end waits for input, and nothing is on its way. -/
def Rests : (ps : List Program) → Line τ ps → Chain τ → Prop
  | [], sink, c => c = .target sink
  | p :: ps, stage, c =>
    match (stage : Stage p (Line τ ps)) with
    | ⟨.inl state, below⟩ => ∃ relay chain, relay.Idle ∧ relay.writerOpen = true ∧
        relay.readerOpen = true ∧ Rests ps below chain ∧
          c = .stage p relay (.working (.ask state)) chain
    | ⟨.inr ending, below⟩ => ∃ relay chain, relay.writerOpen = true ∧
        relay.readerOpen = false ∧ Rests ps below chain ∧ c = .stage p relay (.ended ending) chain

variable [Sink τ] {ps : List Program} {line : Line τ ps} {c : Chain τ}

theorem Rests.flush (h : Rests ps line c) :
    c.flush.1 = (Sink.flush line).1 ∧ Rests ps (Sink.flush line).2 c.flush.2 := by
  cases ps with
  | nil =>
      obtain rfl : c = .target line := h
      exact ⟨rfl, rfl⟩
  | cons p ps =>
      obtain ⟨state | ending, below⟩ := line
      · obtain ⟨relay, chain, hidle, hw, hr, hbelow, rfl⟩ := h
        exact ⟨rfl, relay, chain, hidle, hw, hr, hbelow, rfl⟩
      · obtain ⟨relay, chain, hw, hr, hbelow, rfl⟩ := h
        exact ⟨rfl, relay, chain, hw, hr, hbelow, rfl⟩

theorem Rests.conclude (h : Rests ps line c) (ending : Ending) :
    (c.conclude ending).1 = (Sink.conclude ending line).1 ∧
      Rests ps (Sink.conclude ending line).2 (c.conclude ending).2 := by
  cases ending with
  | returned =>
      obtain ⟨he, hrests⟩ := h.flush
      rcases hc : c.flush with ⟨_ | e, d⟩ <;> rcases hl : Sink.flush line with ⟨_ | e', after⟩ <;>
        simp_all [Chain.conclude, Sink.conclude]
  | failed e => exact ⟨rfl, h⟩
  | panicked => exact ⟨rfl, h⟩

/-- What is written to a chain at rest can be carried through as far as it
gets. -/
def Carries (ps : List Program) : Prop :=
  ∀ (line : Line τ ps) (c : Chain τ) (chunk : Bytes), Rests ps line c →
    ∃ d d', c.write? chunk = some ((Sink.write line chunk).1, d) ∧ Chain.Run d d' ∧
      Rests ps (Sink.write line chunk).2 d'

theorem Carries.run (hwrite : Carries (τ := τ) ps) (p : Program) (relay : Relay)
    (b : Burst p.State Ending) (h : Rests ps line c) :
    ∃ d, Chain.Run (.stage p relay (.working b) c)
      (.stage p relay (.working (.ofOutcome (b.run line).1)) d) ∧ Rests ps (b.run line).2 d := by
  induction b generalizing line c with
  | stop ending => exact ⟨c, .refl, h⟩
  | ask state => exact ⟨c, .refl, h⟩
  | write chunk next ih =>
      obtain ⟨d, d', hd, hcarried, hrests⟩ := hwrite _ _ chunk h
      obtain ⟨last, hlast, hrests⟩ := ih _ hrests
      exact ⟨last, .head (.write hd) ((hcarried.deeper p relay _).trans hlast), hrests⟩

/-- A filter that has done its work waits, or lets go of what it reads from. -/
theorem Rests.settle {relay : Relay} (hidle : relay.Idle) (hw : relay.writerOpen = true)
    (hr : relay.readerOpen = true) {p : Program} (outcome : p.State ⊕ Ending)
    (h : Rests ps line c) :
    ∃ d, Chain.Run (.stage p relay (.working (.ofOutcome outcome)) c) d ∧
      Rests (p :: ps) (Stage.settle (outcome, line)) d := by
  cases outcome with
  | inl state => exact ⟨_, .refl, relay, c, hidle, hw, hr, h, rfl⟩
  | inr ending =>
      obtain ⟨he, hrests⟩ := h.conclude ending
      refine ⟨.stage p relay.dropReader (.ended (c.conclude ending).1) (c.conclude ending).2,
        .head .stop (.single (.dropReader hr)), ?_⟩
      rw [Stage.settle_inr, he]
      exact ⟨relay.dropReader, _, hw, rfl, hrests, rfl⟩

theorem Rests.write_nil {p : Program} {line : Line τ (p :: ps)} (h : Rests (p :: ps) line c) :
    c.write? [] = some (none, c) := by
  have hstage : ∀ (relay : Relay) (activity : Activity p.State Ending) (chain : Chain τ),
      relay.writerOpen = true → (Chain.stage p relay activity chain).write? [] =
        some (none, .stage p relay activity chain) := by
    intro relay activity chain hw
    simp [Chain.write?, Relay.write?, hw]
  obtain ⟨state | ending, below⟩ := line
  · obtain ⟨relay, chain, -, hw, -, -, rfl⟩ := h
    exact hstage relay _ chain hw
  · obtain ⟨relay, chain, hw, -, -, rfl⟩ := h
    exact hstage relay _ chain hw

theorem carries (ps : List Program) : Carries (τ := τ) ps := by
  induction ps with
  | nil =>
      intro line c chunk h
      obtain rfl : c = .target line := h
      exact ⟨_, _, rfl, .refl, rfl⟩
  | cons p ps ih =>
      intro line c chunk h
      by_cases hchunk : chunk = []
      · subst hchunk
        exact ⟨c, c, h.write_nil, .refl, h⟩
      · obtain ⟨state | ending, below⟩ := line
        · obtain ⟨relay, chain, hidle, hw, hr, hbelow, rfl⟩ := h
          -- Nothing is on its way, so the filter takes the chunk as it was written.
          obtain ⟨relay', hread, hidle', hw', hr'⟩ := hidle.read? hr hchunk
          obtain ⟨d, hworked, hrests⟩ := ih.run p relay' (p.feed state chunk) hbelow
          obtain ⟨last, hsettled, hrests⟩ := hrests.settle hidle' (hw'.trans hw) hr' _
          have hsink : Sink.write (τ := Line τ (p :: ps)) ⟨.inl state, below⟩ chunk =
              (none, Stage.settle ((p.feed state chunk).run below)) := if_neg hchunk
          rw [hsink]
          refine ⟨.stage p (relay.enqueue chunk) (.working (.ask state)) chain, last, ?_,
            .head (.read (List.length_pos_iff.2 hchunk) hchunk hread) (hworked.trans hsettled),
            hrests⟩
          simp [Chain.write?, hidle.write? hw hr hchunk]
        · obtain ⟨relay, chain, hw, hr, hbelow, rfl⟩ := h
          have hsink : Sink.write (τ := Line τ (p :: ps)) ⟨.inr ending, below⟩ chunk =
              (some .relayClosed, ⟨.inr ending, below⟩) := if_neg hchunk
          rw [hsink]
          refine ⟨_, _, ?_, .refl, relay, chain, hw, hr, hbelow, rfl⟩
          simp [Chain.write?, Relay.write?_of_reader_gone hr hw hchunk]

theorem exists_run_start (target : τ) (ps : List Program) :
    ∃ c, Chain.Run (.start target ps) c ∧ Rests ps (Line.start target ps) c := by
  induction ps with
  | nil => exact ⟨.target target, .refl, rfl⟩
  | cons p ps ih =>
      obtain ⟨c, hstarted, hrests⟩ := ih
      obtain ⟨d, hworked, hrests⟩ := (carries ps).run p .start p.start hrests
      obtain ⟨last, hsettled, hrests⟩ := hrests.settle Relay.idle_start rfl rfl _
      exact ⟨last, (hstarted.deeper p .start _).trans (hworked.trans hsettled), hrests⟩

/-- A chain that its writer has let go of can be brought to its end. -/
def Closes (ps : List Program) : Prop :=
  ∀ (line : Line τ ps) (c : Chain τ), Rests ps line c →
    ∃ d, Chain.Run c.release d ∧ d.Released ∧ d.Finished ∧ d.endings = (Line.close ps line).1 ∧
      d.sink = (Line.close ps line).2

theorem Rests.run_release (h : Rests ps line c) {p : Program} {relay : Relay} {ending : Ending}
    (hr : relay.readerOpen = false) :
    Chain.Run (.stage p relay (.ended ending) c) (.stage p relay (.ended ending) c.release) := by
  cases ps with
  | nil =>
      obtain rfl : c = .target line := h
      exact .refl
  | cons q ps =>
      obtain ⟨state | ending, below⟩ := line
      · obtain ⟨relay', chain, -, hw, -, -, rfl⟩ := h
        exact .single (.dropWriter hr (if_pos hw))
      · obtain ⟨relay', chain, hw, -, -, rfl⟩ := h
        exact .single (.dropWriter hr (if_pos hw))

theorem Closes.ended (hclose : Closes (τ := τ) ps) (h : Rests ps line c) (p : Program)
    (relay : Relay) (ending : Ending) (hw : relay.writerOpen = false)
    (hr : relay.readerOpen = false) :
    ∃ d, Chain.Run (.stage p relay (.ended ending) c) d ∧ d.Released ∧ d.Finished ∧
      d.endings = ending :: (Line.close ps line).1 ∧ d.sink = (Line.close ps line).2 := by
  obtain ⟨d, hclosed, hreleased, hfinished, hendings, hsink⟩ := hclose _ _ h
  refine ⟨.stage p relay (.ended ending) d, (h.run_release hr).trans (hclosed.deeper p relay _),
    hw, ⟨⟨ending, rfl⟩, hr, hreleased, hfinished⟩, ?_, hsink⟩
  rw [Chain.endings, hendings]

theorem closes (ps : List Program) : Closes (τ := τ) ps := by
  induction ps with
  | nil =>
      intro line c h
      obtain rfl : c = .target line := h
      exact ⟨_, .refl, trivial, trivial, rfl, rfl⟩
  | cons p ps ih =>
      intro line c h
      obtain ⟨state | ending, below⟩ := line
      · obtain ⟨relay, chain, hidle, hw, hr, hbelow, rfl⟩ := h
        have hend : relay.dropWriter.read? 1 = some ([], relay.dropWriter) :=
          hidle.dropWriter.read?_end rfl hr
        obtain ⟨d, hworked, hrests⟩ :=
          (carries ps).run p relay.dropWriter (p.finish state).widen hbelow
        rw [Burst.run_widen] at hworked hrests
        obtain ⟨he, hrests⟩ := hrests.conclude ((p.finish state).complete below).1
        obtain ⟨last, hended, hdone⟩ := ih.ended hrests p relay.dropWriter.dropReader
          (d.conclude ((p.finish state).complete below).1).1 rfl rfl
        refine ⟨last, .head (.readEnd Nat.one_pos hend)
          (hworked.trans (.head .stop (.head (.dropReader hr) hended))), ?_⟩
        have hclose : Line.close (p :: ps) ⟨.inl state, below⟩ =
            ((Sink.conclude ((p.finish state).complete below).1
                ((p.finish state).complete below).2).1 ::
              (Line.close ps (Sink.conclude ((p.finish state).complete below).1
                ((p.finish state).complete below).2).2).1,
              (Line.close ps (Sink.conclude ((p.finish state).complete below).1
                ((p.finish state).complete below).2).2).2) := by
          rw [← Stage.close_inl]
          rfl
        rw [hclose, ← he]
        exact hdone
      · obtain ⟨relay, chain, hw, hr, hbelow, rfl⟩ := h
        exact ih.ended hbelow p relay.dropWriter ending rfl hr

end Line

namespace Network

variable {α τ : Type} [Sink τ] {ps : List Program} {line : Line τ ps} {c d : Chain τ}

theorem Run.chain (run : Chain.Run c d) (head : Activity Empty (HeadResult α)) :
    Run ⟨head, c⟩ ⟨head, d⟩ :=
  Relation.ReflTransGen.lift (fun chain => (⟨head, chain⟩ : Network α τ))
    (fun _ _ h => Step.chain h) _ _ run

theorem exists_run_head (h : Line.Rests ps line c) (head : Head α) :
    ∃ d, Run ⟨.working head, c⟩ ⟨.working (.stop (head.complete line).1), d⟩ ∧
      Line.Rests ps (head.complete line).2 d := by
  induction head generalizing line c with
  | stop result => exact ⟨c, .refl, h⟩
  | ask state => exact state.elim
  | write chunk next ih =>
      obtain ⟨d, d', hd, hcarried, hrests⟩ := Line.carries ps _ _ chunk h
      obtain ⟨last, hlast, hrests⟩ := ih _ hrests
      exact ⟨last, .head (.write hd) ((Run.chain hcarried _).trans hlast), hrests⟩

theorem run_release (h : Line.Rests ps line c) (result : HeadResult α) :
    Run ⟨.ended result, c⟩ ⟨.ended result, c.release⟩ := by
  cases ps with
  | nil =>
      obtain rfl : c = .target line := h
      exact .refl
  | cons p ps =>
      obtain ⟨state | ending, below⟩ := line
      · obtain ⟨relay, chain, -, hw, -, -, rfl⟩ := h
        exact .single (.leave (if_pos hw))
      · obtain ⟨relay, chain, hw, -, -, rfl⟩ := h
        exact .single (.leave (if_pos hw))

/-- The head ends with the failure that `Pipeline.run` gives it. -/
theorem exists_conclude {names : List Text} {target : τ} {head : Head α} {result : HeadResult α}
    (hhead : head.complete (Line.start target ps) = (result, line)) (h : Line.Rests ps line c) :
    ∃ last, Line.Rests ps last (conclude result c).2 ∧
      Pipeline.run names ps target head =
        (Pipeline.resultOf (conclude result c).1.failure names (Line.close ps last).1,
          result.value, (Line.close ps last).2) := by
  obtain ⟨value, failure⟩ := result
  cases failure with
  | some e =>
      refine ⟨line, h, ?_⟩
      simp [Pipeline.run, conclude, hhead]
  | none =>
      obtain ⟨he, hflushed⟩ := h.flush
      refine ⟨(Sink.flush line).2, hflushed, ?_⟩
      simp [Pipeline.run, conclude, hhead, he]

theorem conclude_value (result : HeadResult α) (chain : Chain τ) :
    (conclude result chain).1.value = result.value := by
  unfold conclude
  cases result.failure <;> rfl

/-- `Pipeline.run` takes the steps of a network in one of their orders. -/
theorem exists_run (names : List Text) (ps : List Program) (target : τ) (head : Head α) :
    ∃ (n : Network α τ) (result : HeadResult α), Run (start ps target head) n ∧ n.Finished ∧
      n.head = .ended result ∧
      Pipeline.run names ps target head =
        (Pipeline.resultOf result.failure names n.chain.endings, result.value, n.chain.sink) := by
  obtain ⟨c, hstarted, hrests⟩ := Line.exists_run_start target ps
  obtain ⟨d, hworked, hrests⟩ := exists_run_head hrests head
  rcases hhead : head.complete (Line.start target ps) with ⟨result, line⟩
  simp only [hhead] at hworked hrests
  obtain ⟨last, hrests, hrun⟩ := exists_conclude hhead hrests
  obtain ⟨e, hclosed, hreleased, hfinished, hendings, hsink⟩ := Line.closes ps _ _ hrests
  refine ⟨⟨.ended (conclude result d).1, e⟩, (conclude result d).1, ?_,
    ⟨⟨_, rfl⟩, hreleased, hfinished⟩, rfl, ?_⟩
  · calc
      Run (start ps target head) ⟨.working head, c⟩ := Run.chain hstarted _
      Run _ ⟨.working (.stop result), d⟩ := hworked
      Run _ ⟨.ended (conclude result d).1, (conclude result d).2⟩ := .single .stop
      Run _ ⟨.ended (conclude result d).1, (conclude result d).2.release⟩ := run_release hrests _
      Run _ ⟨.ended (conclude result d).1, e⟩ := Run.chain hclosed _
  · rw [hrun, hendings, hsink, conclude_value]

/-- The head and the filters of a chain can take their steps in an order that
brings all of them to their ends. Whatever the order was, then the target has
got what the filters, in the order of the chain, make of what the head writes,
and that is what `Pipeline.execute` delivers. -/
theorem sink_of_every_schedule {seen : τ → Bytes} (hseen : Sink.Accepting seen)
    {filters : Table Filter} {chain : List FilterCall}
    (hresolve : Pipeline.resolve filters chain = .ok ps) (hsteady : ∀ p ∈ ps, p.Steady)
    (target : τ) (head : Head α) (files : FileTree) :
    (∃ n, Run (start ps target head) n ∧ n.Finished) ∧
      ∀ n, Run (start ps target head) n → n.Finished →
        seen n.chain.sink = seen target ++ Pipeline.filtered filters chain head.written ∧
        seen n.chain.sink =
          seen (Pipeline.execute filters chain none files target fun _ => head).sink := by
  obtain ⟨m, result, hrun, hended, -, heq⟩ :=
    exists_run (chain.map FilterCall.name) ps target head
  refine ⟨⟨m, hrun, hended⟩, fun n run hfinished => ?_⟩
  have hdelivered := seen_of_finished hseen hsteady run hfinished
  constructor
  · rw [hdelivered, Pipeline.filtered_of_resolve hresolve]
  · calc
      seen n.chain.sink = seen target ++ Program.compose ps head.written := hdelivered
      _ = seen m.chain.sink := (seen_of_finished hseen hsteady hrun hended).symm
      _ = _ := by simp only [Pipeline.execute, hresolve, Pipeline.intoSink, heq]

/-- Two lines through two filters, the first of which drops one of them. -/
theorem sink_of_every_schedule_two_filters :
    let filters : Table Filter := ⟨[("grep".toList, Grep.filter)]⟩
    let chain : List FilterCall := [⟨"grep".toList, ["-v".toList, "b".toList]⟩, ⟨"grep".toList, []⟩]
    let ps := [Grep.filter ["-v".toList, "b".toList], Grep.filter []]
    let head : Head Unit :=
      .emit (Text.bytes "ab\na".toList) (.emit (Text.bytes "c\n".toList) (.stop ⟨(), none⟩))
    Pipeline.resolve filters chain = .ok ps ∧
      ∃ n : Network Unit Collector, Run (start ps .empty head) n ∧ n.Finished ∧
        n.chain.sink.bytes = Text.bytes "ac\n".toList := by
  intro filters chain ps head
  have hresolve : Pipeline.resolve filters chain = .ok ps := rfl
  have hsteady : ∀ p ∈ ps, p.Steady := by
    intro p hp
    obtain rfl | rfl : p = _ ∨ p = _ := by simpa [ps] using hp
    · exact Grep.steady_filter _
    · exact Grep.steady_filter _
  obtain ⟨⟨n, run, hfinished⟩, hevery⟩ :=
    sink_of_every_schedule Collector.accepting hresolve hsteady .empty head ⟨[], []⟩
  refine ⟨hresolve, n, run, hfinished, ?_⟩
  calc
    n.chain.sink.bytes = Collector.empty.bytes ++ Pipeline.filtered filters chain head.written :=
      (hevery n run hfinished).1
    _ = Text.bytes "ac\n".toList := by decide +kernel

end Network

end MenuLine
