import Mathlib.Data.List.Induction
import MenuLine.Job
import MenuLine.Proofs.Schedule

/-!
# The result of a pipeline

A filter that has come to its end and let go of its relays stays as it is, so
the caller may wait for the filters in whatever order they come to their ends
and finds out how each of them ended. The failure that is left is that of the
head or else that of the last filter of the chain that failed. The main
statement is `Pipeline.execute_result`.
-/

namespace MenuLine

namespace Chain

variable {τ : Type}

def length : Chain τ → Nat
  | target _ => 0
  | stage _ _ _ below => below.length + 1

@[simp] theorem length_target (sink : τ) : (target sink).length = 0 := rfl

@[simp] theorem length_stage (p : Program) (relay : Relay) (activity : Activity p.State Ending)
    (below : Chain τ) : (stage p relay activity below).length = below.length + 1 := rfl

@[simp] theorem length_start (sink : τ) (ps : List Program) :
    (start sink ps).length = ps.length := by
  induction ps with
  | nil => rfl
  | cons p ps ih => exact congrArg (· + 1) ih

/-- A chain later on: nobody takes back what has been let go of. -/
structure Advanced (c d : Chain τ) : Prop where
  length : d.length = c.length
  released : c.Released → d.Released
  left : ∀ i ending, c.Left i ending → d.Left i ending

variable {p : Program} {relay relay' : Relay} {activity activity' : Activity p.State Ending}
  {below after c d : Chain τ}

theorem Advanced.refl (c : Chain τ) : Advanced c c :=
  ⟨rfl, id, fun _ _ h => h⟩

/-- A filter at work has not let go of anything. -/
theorem Advanced.working {b : Burst p.State Ending} (h : Advanced below after)
    (hwriter : relay'.writerOpen = relay.writerOpen) :
    Advanced (stage p relay (.working b) below) (stage p relay' activity' after) := by
  refine ⟨congrArg (· + 1) h.length, ?_, ?_⟩
  · intro hreleased
    exact hwriter.trans hreleased
  · intro i ending hleft
    cases hleft with
    | deeper hleft => exact .deeper (h.left _ _ hleft)

theorem Advanced.stage (h : Advanced below after)
    (hwriter : relay.writerOpen = false → relay'.writerOpen = false)
    (hreader : relay.readerOpen = false → relay'.readerOpen = false) :
    Advanced (.stage p relay activity below) (.stage p relay' activity after) := by
  refine ⟨congrArg (· + 1) h.length, hwriter, ?_⟩
  intro i ending hleft
  cases hleft with
  | here hgone hreleased => exact .here (hreader hgone) (h.released hreleased)
  | deeper hleft => exact .deeper (h.left _ _ hleft)

theorem advanced_dropWriter (h : c.dropWriter? = some d) : Advanced c d := by
  cases c with
  | target sink => cases h
  | stage p relay activity below =>
      simp only [dropWriter?] at h
      split at h
      · cases h
        exact (Advanced.refl below).stage (fun _ => rfl) id
      · cases h

/-! ## How all filters ended -/

theorem Finished.exists_left (h : c.Finished) {i : Nat} (hi : i < c.length) :
    ∃ ending, c.Left i ending := by
  induction c generalizing i with
  | target sink => exact absurd hi (Nat.not_lt_zero i)
  | stage p relay activity below ih =>
      obtain ⟨⟨ending, rfl⟩, hreader, hreleased, hbelow⟩ := h
      cases i with
      | zero => exact ⟨ending, .here hreader hreleased⟩
      | succ i =>
          obtain ⟨later, hleft⟩ := ih hbelow (Nat.lt_of_succ_lt_succ hi)
          exact ⟨later, .deeper hleft⟩

theorem finished_of_left {endings : List Ending} (hlength : endings.length = c.length)
    (h : ∀ i ending, endings[i]? = some ending → c.Left i ending) :
    c.Finished ∧ c.endings = endings := by
  induction c generalizing endings with
  | target sink => exact ⟨trivial, (List.length_eq_zero_iff.1 hlength).symm⟩
  | stage p relay activity below ih =>
      cases endings with
      | nil => simp at hlength
      | cons ending endings =>
          have hbelow : below.Finished ∧ below.endings = endings := by
            apply ih (Nat.succ.inj hlength)
            intro i later hlater
            cases h (i + 1) later hlater with
            | deeper hleft => exact hleft
          cases h 0 ending rfl with
          | here hreader hreleased =>
              refine ⟨⟨⟨ending, rfl⟩, hreader, hreleased, hbelow.1⟩, ?_⟩
              rw [Chain.endings, hbelow.2]

/-! ## Steps of the filters -/

variable [Sink τ]

theorem advanced_write {chunk : Bytes} {e : Option IoError}
    (h : c.write? chunk = some (e, d)) : Advanced c d := by
  cases c with
  | target sink =>
      cases h
      exact ⟨rfl, id, fun i ending hleft => nomatch hleft⟩
  | stage p relay activity below =>
      obtain ⟨result, after, hwrite, rfl⟩ := exists_of_write? h
      obtain ⟨hwriter, hreader⟩ := Relay.write?_ends hwrite
      exact (Advanced.refl below).stage hwriter.trans hreader.trans

theorem advanced_flush (c : Chain τ) : Advanced c c.flush.2 := by
  cases c with
  | target sink => exact ⟨rfl, id, fun i ending hleft => nomatch hleft⟩
  | stage p relay activity below => exact .refl _

theorem advanced_conclude (ending : Ending) (c : Chain τ) : Advanced c (c.conclude ending).2 := by
  rcases conclude_snd ending c with h | h
  · rw [h]
    exact .refl c
  · rw [h]
    exact advanced_flush c

theorem Step.advanced (h : Step c d) : Advanced c d := by
  induction h with
  | write h => exact (advanced_write h).working rfl
  | read _ _ h => exact (Advanced.refl _).working (Relay.read?_ends h).1
  | readEnd _ h => exact (Advanced.refl _).working (Relay.read?_ends h).1
  | stop => exact (advanced_conclude _ _).working rfl
  | dropReader _ => exact (Advanced.refl _).stage id fun _ => rfl
  | dropWriter _ h => exact (advanced_dropWriter h).stage id id
  | deeper h ih => exact ih.stage id id

end Chain

namespace Network

variable {α τ : Type} [Sink τ] {n m : Network α τ}

/-- A step of the network brings its chain further and leaves a head alone that
has come to its end. -/
theorem Step.advanced (h : Step n m) :
    Chain.Advanced n.chain m.chain ∧ ∀ result, n.head = .ended result → m.head = .ended result := by
  cases h with
  | write h =>
      refine ⟨Chain.advanced_write h, ?_⟩
      intro result hhead
      cases hhead
  | @stop result chain =>
      constructor
      · rcases conclude_snd result chain with h | h
        · rw [h]
          exact .refl chain
        · rw [h]
          exact Chain.advanced_flush chain
      · intro last hhead
        cases hhead
  | leave h => exact ⟨Chain.advanced_dropWriter h, fun _ hhead => hhead⟩
  | chain h => exact ⟨h.advanced, fun _ hhead => hhead⟩

end Network

/-- Success, or a broken pipe. -/
def Ending.Harmless : Ending → Prop
  | .returned => True
  | .failed cause => cause.isBrokenPipe = true
  | .panicked => False

namespace Pipeline

/-! ## The failure that counts -/

theorem failureOf_eq_none_iff (name : Text) {ending : Ending} :
    failureOf name ending = none ↔ ending.Harmless := by
  cases ending with
  | returned => simp [failureOf, Ending.Harmless]
  | panicked => simp [failureOf, Ending.Harmless]
  | failed cause => simp [failureOf, Ending.Harmless]

theorem headFailure_eq_none_iff {failure : Option IoError} :
    headFailure failure = none ↔ ∀ cause ∈ failure, cause.isBrokenPipe = true := by
  cases failure with
  | none => simp [headFailure]
  | some cause => simp [headFailure, Option.filter]

theorem headFailure_eq_some {cause : IoError} (h : cause.isBrokenPipe = false) :
    headFailure (some cause) = some (.handler cause) := by
  simp [headFailure, Option.filter, h]

/-- The failure of the last filter that failed. -/
def lastFailure (names : List Text) (endings : List Ending) : Option PipelineError :=
  (names.zip endings).reverse.findSome? fun e => failureOf e.1 e.2

theorem resultOf_eq (head : Option IoError) (names : List Text) (endings : List Ending) :
    resultOf head names endings = (headFailure head <|> lastFailure names endings) := rfl

theorem lastFailure_cons (name : Text) (names : List Text) (ending : Ending)
    (endings : List Ending) :
    lastFailure (name :: names) (ending :: endings) =
      (lastFailure names endings <|> failureOf name ending) := by
  simp [lastFailure, List.findSome?_append]

theorem resultOf_nil (head : Option IoError) : resultOf head [] [] = headFailure head := by
  rw [resultOf_eq]
  cases headFailure head <;> rfl

/-- A filter in front counts only if nothing behind it has failed. -/
theorem resultOf_cons (head : Option IoError) (name : Text) (names : List Text) (ending : Ending)
    (endings : List Ending) :
    resultOf head (name :: names) (ending :: endings) =
      (resultOf head names endings <|> failureOf name ending) := by
  rw [resultOf_eq, resultOf_eq, lastFailure_cons]
  cases headFailure head <;> rfl

theorem lastFailure_eq_none_iff {names : List Text} {endings : List Ending}
    (hlength : endings.length = names.length) :
    lastFailure names endings = none ↔ ∀ ending ∈ endings, ending.Harmless := by
  induction names generalizing endings with
  | nil =>
      have hnil := List.length_eq_zero_iff.1 hlength
      simp [hnil, lastFailure]
  | cons name names ih =>
      cases endings with
      | nil => simp at hlength
      | cons ending endings =>
          rw [lastFailure_cons, List.forall_mem_cons, ← ih (Nat.succ.inj hlength),
            ← failureOf_eq_none_iff name]
          cases lastFailure names endings <;> cases failureOf name ending <;> simp

/-- A filter that failed counts if none behind it did. -/
theorem lastFailure_eq_failureOf {names : List Text} {endings : List Ending}
    (hlength : endings.length = names.length) {i : Nat} {name : Text} {ending : Ending}
    (hname : names[i]? = some name) (hending : endings[i]? = some ending)
    (hfailed : ¬ ending.Harmless)
    (hlater : ∀ j later, i < j → endings[j]? = some later → later.Harmless) :
    lastFailure names endings = failureOf name ending := by
  induction names generalizing endings i with
  | nil => cases hname
  | cons first names ih =>
      cases endings with
      | nil => cases hending
      | cons last endings =>
          have hlength' := Nat.succ.inj hlength
          rw [lastFailure_cons]
          cases i with
          | zero =>
              have hnone : lastFailure names endings = none := by
                apply (lastFailure_eq_none_iff hlength').2
                intro later hmem
                obtain ⟨j, hj⟩ := List.getElem?_of_mem hmem
                exact hlater (j + 1) later (Nat.succ_pos j) hj
              cases hname
              cases hending
              rw [hnone]
              rfl
          | succ i =>
              have hrest : lastFailure names endings = failureOf name ending := by
                apply ih hlength' hname hending
                intro j later hij hj
                exact hlater (j + 1) later (Nat.succ_lt_succ hij) hj
              rw [hrest]
              have hsome : failureOf name ending ≠ none := mt (failureOf_eq_none_iff name).1 hfailed
              cases hf : failureOf name ending with
              | none => exact absurd hf hsome
              | some e => rfl

end Pipeline

namespace Job

variable {α τ : Type}

/-- The failure that is due when the head and the filters have ended so. -/
structure Reports (names : List Text) (ends : Ends) (failure : Option PipelineError) : Prop where
  length : ends.filters.length = names.length
  success : failure = none ↔
    (∀ cause ∈ ends.head, cause.isBrokenPipe = true) ∧ ∀ ending ∈ ends.filters, ending.Harmless
  handler : ∀ cause ∈ ends.head, cause.isBrokenPipe = false → failure = some (.handler cause)
  filter : (∀ cause ∈ ends.head, cause.isBrokenPipe = true) →
    ∀ (i : Nat) (name : Text) (ending : Ending), names[i]? = some name →
      ends.filters[i]? = some ending → ¬ ending.Harmless →
      (∀ (j : Nat) (later : Ending), i < j → ends.filters[j]? = some later → later.Harmless) →
      (ending = .panicked → failure = some (.filterPanicked name)) ∧
        ∀ cause, ending = .failed cause → failure = some (.filter name cause)

theorem reports_resultOf {names : List Text} {ends : Ends}
    (hlength : ends.filters.length = names.length) :
    Reports names ends (Pipeline.resultOf ends.head names ends.filters) := by
  rw [Pipeline.resultOf_eq]
  refine ⟨hlength, ?_, ?_, ?_⟩
  · rw [← Pipeline.headFailure_eq_none_iff, ← Pipeline.lastFailure_eq_none_iff hlength]
    cases Pipeline.headFailure ends.head <;> simp
  · intro cause hcause hfailed
    rw [Option.mem_def.1 hcause, Pipeline.headFailure_eq_some hfailed]
    rfl
  · intro hhead i name ending hname hending hfailed hlater
    rw [Pipeline.headFailure_eq_none_iff.2 hhead,
      Pipeline.lastFailure_eq_failureOf hlength hname hending hfailed hlater]
    constructor
    · rintro rfl
      rfl
    · rintro cause rfl
      have hpipe : cause.isBrokenPipe = false := by simpa [Ending.Harmless] using hfailed
      simp [Pipeline.failureOf, hpipe]

/-! ## What the caller knows -/

/-- The caller knows how the filters ended that it has waited for, which are the
last ones of the chain. -/
inductive Known (names : List Text) : Job α τ → Prop where
  | running (n : Network α τ) : Known names ⟨n, .running names⟩
  | joining {n : Network α τ} {result : HeadResult α} {front back : List Text}
      {endings : List Ending} (hnames : names = front ++ back) (hhead : n.head = .ended result)
      (hlength : endings.length = back.length)
      (hleft : ∀ i ending, endings[i]? = some ending → n.chain.Left (front.length + i) ending) :
      Known names ⟨n, .joining front (Pipeline.resultOf result.failure back endings)⟩

variable [Sink τ] {names : List Text} {j k : Job α τ}

theorem Step.known (h : Step j k) (hj : Known names j) : Known names k := by
  cases h with
  | @work n m caller h =>
      obtain ⟨hadvanced, hended⟩ := h.advanced
      cases hj with
      | running n => exact .running m
      | joining hnames hhead hlength hleft =>
          apply Known.joining hnames (hended _ hhead) hlength
          intro i ending hi
          exact hadvanced.left _ _ (hleft i ending hi)
  | @turn result chain _ h =>
      cases hj with
      | running n =>
          rw [← Pipeline.resultOf_nil]
          exact .joining (List.append_nil names).symm rfl rfl (by simp)
  | @join n front name failure ending h =>
      cases hj with
      | @joining _ result _ back endings hnames hhead hlength hleft =>
          rw [← Pipeline.resultOf_cons]
          apply Known.joining (by simp [hnames]) hhead (congrArg (· + 1) hlength)
          -- The filter that was waited for stands right in front of those that are known.
          intro i later hi
          cases i with
          | zero =>
              cases hi
              exact h
          | succ i =>
              have hlater := hleft i later hi
              rw [List.length_append, List.length_singleton] at hlater
              rw [Nat.add_comm i 1, ← Nat.add_assoc]
              exact hlater

theorem Run.known (run : Run j k) (hj : Known names j) : Known names k := by
  induction run with
  | refl => exact hj
  | tail _ hstep ih => exact hstep.known ih

theorem Step.length_eq (h : Step j k) : k.network.chain.length = j.network.chain.length := by
  cases h with
  | work h => exact h.advanced.1.length
  | turn h => rfl
  | join h => rfl

theorem Run.length_eq (run : Run j k) : k.network.chain.length = j.network.chain.length := by
  induction run with
  | refl => rfl
  | tail _ hstep ih => exact hstep.length_eq.trans ih

/-- When the caller has waited for all filters, they have ended and it has been
told how. -/
theorem Run.joined {ps : List Program} {target : τ} {head : Head α} {n : Network α τ}
    {failure : Option PipelineError} (hps : ps.length = names.length)
    (run : Run (start names ps target head) ⟨n, .joining [] failure⟩) :
    n.chain.Finished ∧ n.chain.endings.length = names.length ∧
      ∃ result, n.head = .ended result ∧
        failure = Pipeline.resultOf result.failure names n.chain.endings := by
  have hknown := run.known (.running _)
  have hlength := run.length_eq
  have hstart : (start names ps target head).network.chain.length = names.length := by
    rw [← hps]
    exact Chain.length_start target ps
  rw [hstart] at hlength
  cases hknown with
  | @joining _ result _ back endings hnames hhead hback hleft =>
      cases hnames
      have hall : endings.length = n.chain.length := hback.trans hlength.symm
      obtain ⟨hfinished, hendings⟩ := Chain.finished_of_left hall (by simpa using hleft)
      rw [hendings]
      exact ⟨hfinished, hback, result, hhead, rfl⟩

/-- What a job that has returned was told. -/
theorem Returns.resultOf {ps : List Program} {target last : τ} {head : Head α} {ends : Ends}
    {failure : Option PipelineError} {value : α} (hps : ps.length = names.length)
    (h : Returns names ps target head ends (failure, value, last)) :
    ends.filters.length = names.length ∧
      failure = Pipeline.resultOf ends.head names ends.filters := by
  cases h with
  | mk run hhead =>
      obtain ⟨-, hlength, result, hhead', hfailure⟩ := run.joined hps
      cases hhead.symm.trans hhead'
      exact ⟨hlength, hfailure⟩

/-! ## A job whose head and filters have ended -/

theorem Run.work {n m : Network α τ} (run : Network.Run n m) (caller : Caller) :
    Run ⟨n, caller⟩ ⟨m, caller⟩ :=
  Relation.ReflTransGen.lift (fun n => (⟨n, caller⟩ : Job α τ)) (fun _ _ h => Step.work h) _ _ run

/-- By induction on the filters from the last to the first. -/
theorem exists_run_joining {n : Network α τ} (hn : n.chain.Finished) {front : List Text}
    (hfront : front.length ≤ n.chain.length) (failure : Option PipelineError) :
    ∃ last, Run ⟨n, .joining front failure⟩ ⟨n, .joining [] last⟩ := by
  induction front using List.reverseRecOn generalizing failure with
  | nil => exact ⟨failure, .refl⟩
  | append_singleton front name ih =>
      rw [List.length_append, List.length_singleton] at hfront
      obtain ⟨ending, hleft⟩ := hn.exists_left hfront
      obtain ⟨last, run⟩ := ih (Nat.le_of_succ_le hfront)
        (failure <|> Pipeline.failureOf name ending)
      exact ⟨last, .head (.join hleft) run⟩

theorem exists_run_of_finished {n : Network α τ} {caller : Caller} (hn : n.Finished)
    (hlength : n.chain.length = names.length) (hknown : Known names ⟨n, caller⟩) :
    ∃ failure, Run ⟨n, caller⟩ ⟨n, .joining [] failure⟩ := by
  obtain ⟨⟨result, hhead⟩, hreleased, hfinished⟩ := hn
  cases hknown with
  | running n =>
      obtain ⟨head, chain⟩ := n
      cases hhead
      obtain ⟨failure, run⟩ := exists_run_joining (n := ⟨.ended result, chain⟩) hfinished
        (Nat.le_of_eq hlength.symm) (Pipeline.headFailure result.failure)
      exact ⟨failure, .head (.turn hreleased) run⟩
  | joining hnames _ _ _ =>
      apply exists_run_joining hfinished
      rw [hlength, hnames, List.length_append]
      exact Nat.le_add_right _ _

/-- Where all have ended the caller can go on until it returns. -/
theorem Run.returns {ps : List Program} {target : τ} {head : Head α}
    (hps : ps.length = names.length) (run : Run (start names ps target head) j)
    (hj : j.network.Finished) : ∃ failure, Run j ⟨j.network, .joining [] failure⟩ := by
  have hlength : j.network.chain.length = names.length := by
    rw [run.length_eq, ← hps]
    exact Chain.length_start target ps
  exact exists_run_of_finished hj hlength (run.known (.running _))

/-- `Pipeline.run` is what some job comes to. -/
theorem exists_returns {ps : List Program} (hps : ps.length = names.length) (target : τ)
    (head : Head α) :
    ∃ ends, Returns names ps target head ends (Pipeline.run names ps target head) := by
  obtain ⟨n, result, run, hn, hhead, heq⟩ := Network.exists_run names ps target head
  have hwork : Run (start names ps target head) ⟨n, .running names⟩ := .work run _
  obtain ⟨failure, hjoined⟩ := hwork.returns hps hn
  have hreturns := Returns.mk (hwork.trans hjoined) hhead
  obtain ⟨-, hfailure⟩ := hreturns.resultOf hps
  rw [hfailure] at hreturns
  rw [heq]
  exact ⟨_, hreturns⟩

end Job

namespace Pipeline

variable {filters : Table Filter} {chain : List FilterCall}

theorem resolve_of_unknown {front rest : List FilterCall} {call : FilterCall}
    (hfront : ∀ known ∈ front, filters.find? known.name ≠ none)
    (hcall : filters.find? call.name = none) :
    resolve filters (front ++ call :: rest) = .error (.unknownFilter call.name) := by
  induction front with
  | nil => simp [resolve, hcall]
  | cons first front ih =>
      obtain ⟨filter, hfilter⟩ := Option.ne_none_iff_exists'.1 (hfront first List.mem_cons_self)
      have hrest := ih fun known hknown => hfront known (List.mem_cons_of_mem first hknown)
      simp only [List.cons_append, resolve, hfilter, hrest]
      rfl

theorem exists_resolve (h : ∀ call ∈ chain, filters.find? call.name ≠ none) :
    ∃ ps, resolve filters chain = .ok ps := by
  induction chain with
  | nil => exact ⟨[], rfl⟩
  | cons call chain ih =>
      obtain ⟨filter, hfilter⟩ := Option.ne_none_iff_exists'.1 (h call List.mem_cons_self)
      obtain ⟨ps, hps⟩ := ih fun known hknown => h known (List.mem_cons_of_mem call hknown)
      simp only [resolve, hfilter, hps]
      exact ⟨_, rfl⟩

theorem length_of_resolve {ps : List Program} (h : resolve filters chain = .ok ps) :
    ps.length = (chain.map FilterCall.name).length := by
  induction chain generalizing ps with
  | nil =>
      cases h
      rfl
  | cons call chain ih =>
      cases hfilter : filters.find? call.name with
      | none => simp [resolve, hfilter] at h
      | some filter =>
          cases hrest : resolve filters chain with
          | error e => simp [resolve, hfilter, hrest, Except.map] at h
          | ok ps' =>
              simp only [resolve, hfilter, hrest, Except.map] at h
              cases h
              exact congrArg (· + 1) (ih hrest)

variable {α τ : Type} [Sink τ]

/-- `Pipeline.execute` is one of the ways in which things can go. -/
theorem exists_executes (filters : Table Filter) (chain : List FilterCall) (output : Option Text)
    (files : FileTree) (sink : τ) (head : FileTree → Head α) :
    ∃ ends, Executes filters chain output files sink head ends
      (execute filters chain output files sink head) := by
  unfold execute
  cases hresolve : resolve filters chain with
  | error e => exact ⟨none, .refused hresolve⟩
  | ok ps =>
      have hlength := length_of_resolve hresolve
      cases output with
      | none =>
          obtain ⟨ends, h⟩ := Job.exists_returns hlength sink (head files)
          exact ⟨some ends, .intoSink hresolve rfl h⟩
      | some path =>
          dsimp only
          cases hcreate : files.create path with
          | ok created =>
              obtain ⟨place, made⟩ := created
              obtain ⟨ends, h⟩ := Job.exists_returns hlength Collector.empty (head made)
              exact ⟨some ends, .intoFile hresolve rfl hcreate h⟩
          | error cause =>
              dsimp only
              rcases hreport : Sink.writeLine sink ("error writing: ".toList ++ cause.message) with
                ⟨_ | e, told⟩
              · obtain ⟨ends, h⟩ := Job.exists_returns hlength told (head files)
                exact ⟨some ends, .fallback hresolve rfl hcreate hreport h⟩
              · exact ⟨none, .unreported hresolve rfl hcreate hreport⟩

/-- The failure to make the output file, if there is one, can be told. -/
def Reportable (output : Option Text) (files : FileTree) (sink : τ) : Prop :=
  ∀ path cause, output = some path → files.create path = .error cause →
    (Sink.writeLine sink ("error writing: ".toList ++ cause.message)).1 = none

theorem Executes.reports {output : Option Text} {files : FileTree} {sink : τ}
    {head : FileTree → Head α} {ends : Option Job.Ends} {e : Execution α τ}
    (h : Executes filters chain output files sink head ends e)
    (hknown : ∀ call ∈ chain, filters.find? call.name ≠ none)
    (hreportable : Reportable output files sink) :
    ∃ result, ends = some result ∧ Job.Reports (chain.map FilterCall.name) result e.failure := by
  obtain ⟨qs, hqs⟩ := exists_resolve hknown
  have hreturns {σ : Type} [Sink σ] {ps : List Program} {target last : σ} {b : Head α}
      {result : Job.Ends} {failure : Option PipelineError} {value : α}
      (hresolve : resolve filters chain = .ok ps)
      (h : Job.Returns (chain.map FilterCall.name) ps target b result (failure, value, last)) :
      Job.Reports (chain.map FilterCall.name) result failure := by
    obtain ⟨hlength, hfailure⟩ := h.resultOf (length_of_resolve hresolve)
    rw [hfailure]
    exact Job.reports_resultOf hlength
  cases h with
  | refused hresolve =>
      rw [hqs] at hresolve
      cases hresolve
  | intoSink hresolve houtput h => exact ⟨_, rfl, hreturns hresolve h⟩
  | intoFile hresolve houtput hcreate h => exact ⟨_, rfl, hreturns hresolve h⟩
  | unreported hresolve houtput hcreate hreport =>
      have hnone := hreportable _ _ houtput hcreate
      rw [hreport] at hnone
      cases hnone
  | fallback hresolve houtput hcreate hreport h => exact ⟨_, rfl, hreturns hresolve h⟩

/-- What comes of a chain of filters, in whatever order its head and its filters
take their steps and come to their ends. A name that is not known is refused
before anything is run or written. Otherwise the caller comes back once all have
ended, with the failure of the head, or else with that of the last filter that
failed, or with none. -/
theorem execute_result (filters : Table Filter) (chain : List FilterCall) (output : Option Text)
    (files : FileTree) (sink : τ) (head : FileTree → Head α) :
    (∃ ends, Executes filters chain output files sink head ends
      (execute filters chain output files sink head)) ∧
    (∀ front call rest, chain = front ++ call :: rest →
      (∀ known ∈ front, filters.find? known.name ≠ none) → filters.find? call.name = none →
      ∀ ends e, Executes filters chain output files sink head ends e →
        ends = none ∧ e = ⟨some (.unknownFilter call.name), none, sink, files⟩) ∧
    ((∀ call ∈ chain, filters.find? call.name ≠ none) → Reportable output files sink →
      ∀ ends e, Executes filters chain output files sink head ends e →
        ∃ result, ends = some result ∧
          Job.Reports (chain.map FilterCall.name) result e.failure) ∧
    ∀ ps, resolve filters chain = .ok ps →
      ∀ (σ : Type) [Sink σ] (target : σ) (b : Head α) (j : Job α σ),
        Job.Run (.start (chain.map FilterCall.name) ps target b) j → j.network.Finished →
        ∃ failure, Job.Run j ⟨j.network, .joining [] failure⟩ := by
  refine ⟨exists_executes filters chain output files sink head, ?_, ?_, ?_⟩
  · intro front call rest hchain hfront hcall ends e h
    have hrefused : resolve filters (front ++ call :: rest) = .error (.unknownFilter call.name) :=
      resolve_of_unknown hfront hcall
    rw [← hchain] at hrefused
    cases h with
    | refused hresolve =>
        cases hresolve.symm.trans hrefused
        exact ⟨rfl, rfl⟩
    | intoSink hresolve _ _ => cases hresolve.symm.trans hrefused
    | intoFile hresolve _ _ _ => cases hresolve.symm.trans hrefused
    | unreported hresolve _ _ _ => cases hresolve.symm.trans hrefused
    | fallback hresolve _ _ _ _ => cases hresolve.symm.trans hrefused
  · intro hknown hreportable ends e h
    exact h.reports hknown hreportable
  · intro ps hresolve σ _ target b j run hj
    exact run.returns (length_of_resolve hresolve) hj

/-- A name that is not known, and two filters that fail in front of one that
does not, behind a head that a broken pipe has stopped. -/
theorem execute_result_two_failures :
    let filters : Table Filter := ⟨[("copy".toList, fun _ => .copy),
      ("fail".toList, fun _ => .immediate (.stop (.failed .notUtf8))),
      ("panic".toList, fun _ => .immediate (.stop .panicked))]⟩
    let unknown : List FilterCall := [⟨"copy".toList, []⟩, ⟨"none".toList, []⟩]
    let chain : List FilterCall :=
      [⟨"fail".toList, []⟩, ⟨"panic".toList, []⟩, ⟨"copy".toList, []⟩]
    let files : FileTree := ⟨[], []⟩
    let head : FileTree → Head Unit := fun _ => .emit [1] (.stop ⟨(), some .relayClosed⟩)
    execute filters unknown none files Collector.empty head =
      ⟨some (.unknownFilter "none".toList), none, .empty, files⟩ ∧
    ∃ ends, Executes filters chain none files Collector.empty head (some ends)
        (execute filters chain none files Collector.empty head) ∧
      Job.Reports (chain.map FilterCall.name) ends (some (.filterPanicked "panic".toList)) := by
  intro filters unknown chain files head
  constructor
  · obtain ⟨⟨ends, h⟩, hrefused, -, -⟩ :=
      execute_result filters unknown none files Collector.empty head
    have hfront : ∀ known ∈ [(⟨"copy".toList, []⟩ : FilterCall)],
        filters.find? known.name ≠ none := by decide
    exact (hrefused _ _ [] rfl hfront rfl ends _ h).2
  · obtain ⟨⟨ends, h⟩, -, hreports, -⟩ :=
      execute_result filters chain none files Collector.empty head
    have hknown : ∀ call ∈ chain, filters.find? call.name ≠ none := by decide
    have hreportable : Reportable none files Collector.empty :=
      fun path cause houtput _ => nomatch houtput
    obtain ⟨result, rfl, hresult⟩ := hreports hknown hreportable ends _ h
    have hfailure : (execute filters chain none files Collector.empty head).failure =
        some (.filterPanicked "panic".toList) := rfl
    rw [hfailure] at hresult
    exact ⟨result, h, hresult⟩

end Pipeline

end MenuLine
