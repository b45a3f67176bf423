import MenuLine.Job
import MenuLine.Proofs.Schedule

/-!
# Exchanging the target of a pipeline

Two sinks that answer writes in the same way cannot be told apart by what writes to
them (`Sink.Simulates`), and this holds of all that is put in front of them: of a
chain of filters that is carried through (`Pipeline.run_simulates`), and of a
pipeline whose head and filters take their steps in any order
(`Job.Returns.simulates`), since each step into one target can be taken into the
other.
-/

namespace MenuLine

/-- Related sinks give the same answers to writes, and if `flushes` holds to
flushes as well; they stay related. -/
structure Sink.Simulates {τ υ : Type} [Sink τ] [Sink υ] (flushes : Prop) (R : τ → υ → Prop) :
    Prop where
  write : ∀ {s : τ} {t : υ}, R s t → ∀ chunk : Bytes,
    (Sink.write s chunk).1 = (Sink.write t chunk).1 ∧
      R (Sink.write s chunk).2 (Sink.write t chunk).2
  flush : ∀ {s : τ} {t : υ}, R s t →
    (flushes → (Sink.flush s).1 = (Sink.flush t).1) ∧ R (Sink.flush s).2 (Sink.flush t).2

variable {τ υ : Type} {flushes : Prop} {R : τ → υ → Prop} {s : τ} {t : υ}

open Sink (Simulates)

theorem Sink.Simulates.symm [Sink τ] [Sink υ] (h : Simulates flushes R) :
    Simulates flushes fun (t : υ) (s : τ) => R s t where
  write hst chunk := ⟨(h.write hst chunk).1.symm, (h.write hst chunk).2⟩
  flush hst := ⟨fun hflush => ((h.flush hst).1 hflush).symm, (h.flush hst).2⟩

/-! ## Networks on related targets -/

/-- In the same burst of work, or both at their ends. -/
inductive Activity.Alike {σ ρ : Type} (E : ρ → ρ → Prop) :
    Activity σ ρ → Activity σ ρ → Prop where
  | working (b : Burst σ ρ) : Alike E (.working b) (.working b)
  | ended {r r' : ρ} (h : E r r') : Alike E (.ended r) (.ended r')

namespace Chain

/-- The same filters with the same relays, on related targets. -/
inductive Related (flushes : Prop) (R : τ → υ → Prop) : Chain τ → Chain υ → Prop where
  | target {s : τ} {t : υ} (h : R s t) : Related flushes R (target s) (target t)
  | stage {p : Program} {relay : Relay} {activity activity' : Activity p.State Ending}
      {below : Chain τ} {below' : Chain υ}
      (halike : Activity.Alike (fun e f => flushes → e = f) activity activity')
      (hbelow : Related flushes R below below') :
      Related flushes R (stage p relay activity below) (stage p relay activity' below')

variable {c c' : Chain τ} {d : Chain υ}

theorem related_start (flushes : Prop) (hst : R s t) (ps : List Program) :
    Related flushes R (start s ps) (start t ps) := by
  induction ps with
  | nil => exact .target hst
  | cons p ps ih => exact .stage (.working p.start) ih

theorem Related.sink (h : Related flushes R c d) : R c.sink d.sink := by
  induction h with
  | target h => exact h
  | stage halike hbelow ih => exact ih

theorem Related.released (h : Related flushes R c d) : c.Released ↔ d.Released := by
  cases h with
  | target h => exact Iff.rfl
  | stage halike hbelow => exact Iff.rfl

theorem Related.left {i : Nat} {ending : Ending} (h : Related flushes R c d)
    (hleft : c.Left i ending) : ∃ ending', d.Left i ending' ∧ (flushes → ending = ending') := by
  induction hleft generalizing d with
  | here hreader hreleased =>
      cases h with
      | stage halike hbelow =>
          cases halike with
          | ended h => exact ⟨_, .here hreader (hbelow.released.1 hreleased), h⟩
  | deeper hleft ih =>
      cases h with
      | stage halike hbelow =>
          obtain ⟨ending', hleft', hending⟩ := ih hbelow
          exact ⟨ending', .deeper hleft', hending⟩

theorem Related.dropWriter (h : Related flushes R c d) (hdrop : c.dropWriter? = some c') :
    ∃ d', d.dropWriter? = some d' ∧ Related flushes R c' d' := by
  cases h with
  | target h => cases hdrop
  | stage halike hbelow =>
      simp only [dropWriter?] at hdrop ⊢
      split at hdrop
      · next hwriter =>
          cases hdrop
          exact ⟨_, if_pos hwriter, .stage halike hbelow⟩
      · cases hdrop

end Chain

namespace Network

/-- The value that the head comes to does not depend on flushes. -/
def AlikeResult (flushes : Prop) (r r' : HeadResult α) : Prop :=
  r.value = r'.value ∧ (flushes → r = r')

structure Related (flushes : Prop) (R : τ → υ → Prop) (n : Network α τ) (m : Network α υ) :
    Prop where
  head : Activity.Alike (AlikeResult flushes) n.head m.head
  chain : n.chain.Related flushes R m.chain

end Network

namespace Job

/-- The caller is as far with either target, and it knows of the same failures if
flushes do not make a difference. -/
inductive CallerAlike (flushes : Prop) : Caller → Caller → Prop where
  | running (names : List Text) : CallerAlike flushes (.running names) (.running names)
  | joining {names : List Text} {failure failure' : Option PipelineError}
      (h : flushes → failure = failure') :
      CallerAlike flushes (.joining names failure) (.joining names failure')

structure Related (flushes : Prop) (R : τ → υ → Prop) (j : Job α τ) (k : Job α υ) : Prop where
  network : j.network.Related flushes R k.network
  caller : CallerAlike flushes j.caller k.caller

theorem related_start (flushes : Prop) (hst : R s t) (names : List Text) (ps : List Program)
    (head : Head α) : Related flushes R (start names ps s head) (start names ps t head) :=
  ⟨⟨.working head, Chain.related_start flushes hst ps⟩, .running names⟩

end Job

variable [Sink τ] [Sink υ]

/-! ## One step at a time -/

namespace Chain

variable {c c' : Chain τ} {d : Chain υ}

theorem Related.write (hsim : Simulates flushes R) (h : Related flushes R c d) {chunk : Bytes}
    {e : Option IoError} (hwrite : c.write? chunk = some (e, c')) :
    ∃ d', d.write? chunk = some (e, d') ∧ Related flushes R c' d' := by
  cases h with
  | target h =>
      cases hwrite
      obtain ⟨hanswer, hafter⟩ := hsim.write h chunk
      refine ⟨_, ?_, .target hafter⟩
      rw [hanswer]
      rfl
  | stage halike hbelow =>
      obtain ⟨⟨result, after⟩, hrelay, he⟩ := Option.map_eq_some_iff.1 hwrite
      simp only [write?, hrelay]
      cases result with
      | ok n =>
          cases he
          exact ⟨_, rfl, .stage halike hbelow⟩
      | error e =>
          cases he
          exact ⟨_, rfl, .stage halike hbelow⟩

theorem Related.flush (hsim : Simulates flushes R) (h : Related flushes R c d) :
    (flushes → c.flush.1 = d.flush.1) ∧ Related flushes R c.flush.2 d.flush.2 := by
  cases h with
  | target h =>
      obtain ⟨hanswer, hafter⟩ := hsim.flush h
      exact ⟨hanswer, .target hafter⟩
  | stage halike hbelow => exact ⟨fun _ => rfl, .stage halike hbelow⟩

theorem Related.conclude (hsim : Simulates flushes R) (h : Related flushes R c d)
    (ending : Ending) :
    (flushes → (conclude ending c).1 = (conclude ending d).1) ∧
      Related flushes R (conclude ending c).2 (conclude ending d).2 := by
  cases ending with
  | returned =>
      obtain ⟨hanswer, hafter⟩ := h.flush hsim
      rcases hc : c.flush with ⟨_ | e, c'⟩ <;> rcases hd : d.flush with ⟨_ | f, d'⟩ <;>
        simp_all [Chain.conclude]
  | failed e => exact ⟨fun _ => rfl, h⟩
  | panicked => exact ⟨fun _ => rfl, h⟩

/-- By induction on the step: only a filter next to the target has to do with it. -/
theorem Step.simulates (hsim : Simulates flushes R) (hstep : Step c c')
    (h : Related flushes R c d) : ∃ d', Step d d' ∧ Related flushes R c' d' := by
  induction hstep generalizing d with
  | write hwrite =>
      cases h with
      | stage halike hbelow =>
          cases halike with
          | working b =>
              obtain ⟨after, hwrite', hafter⟩ := hbelow.write hsim hwrite
              exact ⟨_, .write hwrite', .stage (.working _) hafter⟩
  | read hsize hfound hread =>
      cases h with
      | stage halike hbelow =>
          cases halike with
          | working b => exact ⟨_, .read hsize hfound hread, .stage (.working _) hbelow⟩
  | readEnd hsize hread =>
      cases h with
      | stage halike hbelow =>
          cases halike with
          | working b => exact ⟨_, .readEnd hsize hread, .stage (.working _) hbelow⟩
  | stop =>
      cases h with
      | stage halike hbelow =>
          cases halike with
          | working b =>
              obtain ⟨hending, hafter⟩ := hbelow.conclude hsim _
              exact ⟨_, .stop, .stage (.ended hending) hafter⟩
  | dropReader hreader =>
      cases h with
      | stage halike hbelow =>
          cases halike with
          | ended hending => exact ⟨_, .dropReader hreader, .stage (.ended hending) hbelow⟩
  | dropWriter hreader hdrop =>
      cases h with
      | stage halike hbelow =>
          cases halike with
          | ended hending =>
              obtain ⟨after, hdrop', hafter⟩ := hbelow.dropWriter hdrop
              exact ⟨_, .dropWriter hreader hdrop', .stage (.ended hending) hafter⟩
  | deeper hstep ih =>
      cases h with
      | stage halike hbelow =>
          obtain ⟨after, hstep', hafter⟩ := ih hbelow
          exact ⟨_, .deeper hstep', .stage halike hafter⟩

end Chain

namespace Network

variable {α : Type} {n n' : Network α τ} {m : Network α υ}

theorem conclude_related (hsim : Simulates flushes R) {chain : Chain τ} {chain' : Chain υ}
    (h : chain.Related flushes R chain') (result : HeadResult α) :
    AlikeResult flushes (conclude result chain).1 (conclude result chain').1 ∧
      (conclude result chain).2.Related flushes R (conclude result chain').2 := by
  obtain ⟨value, failure⟩ := result
  cases failure with
  | some e => exact ⟨⟨rfl, fun _ => rfl⟩, h⟩
  | none =>
      obtain ⟨hanswer, hafter⟩ := h.flush hsim
      exact ⟨⟨rfl, fun hflush => congrArg _ (hanswer hflush)⟩, hafter⟩

theorem Step.simulates (hsim : Simulates flushes R) (hstep : Step n n')
    (h : Related flushes R n m) : ∃ m', Step m m' ∧ Related flushes R n' m' := by
  obtain ⟨head, chain⟩ := m
  obtain ⟨hhead, hchain⟩ := h
  cases hstep with
  | write hwrite =>
      cases hhead with
      | working b =>
          obtain ⟨after, hwrite', hafter⟩ := hchain.write hsim hwrite
          exact ⟨_, .write hwrite', .working _, hafter⟩
  | @stop result _ =>
      cases hhead with
      | working b =>
          obtain ⟨hresult, hafter⟩ := conclude_related hsim hchain result
          exact ⟨_, .stop, .ended hresult, hafter⟩
  | leave hdrop =>
      cases hhead with
      | ended hresult =>
          obtain ⟨after, hdrop', hafter⟩ := hchain.dropWriter hdrop
          exact ⟨_, .leave hdrop', .ended hresult, hafter⟩
  | chain hstep =>
      obtain ⟨after, hstep', hafter⟩ := hstep.simulates hsim hchain
      exact ⟨_, .chain hstep', hhead, hafter⟩

end Network

namespace Job

variable {α : Type} {j j' : Job α τ} {k : Job α υ}

theorem Step.simulates (hsim : Simulates flushes R) (hstep : Step j j')
    (h : Related flushes R j k) : ∃ k', Step k k' ∧ Related flushes R j' k' := by
  obtain ⟨m, caller⟩ := k
  obtain ⟨hnetwork, hcaller⟩ := h
  cases hstep with
  | work hstep =>
      obtain ⟨m', hstep', hm'⟩ := hstep.simulates hsim hnetwork
      exact ⟨_, .work hstep', hm', hcaller⟩
  | turn hreleased =>
      obtain ⟨head, chain⟩ := m
      obtain ⟨hhead, hchain⟩ := hnetwork
      cases hhead with
      | ended hresult =>
          cases hcaller with
          | running names =>
              refine ⟨_, .turn (hchain.released.1 hreleased), ⟨.ended hresult, hchain⟩,
                .joining fun hflush => ?_⟩
              rw [hresult.2 hflush]
  | join hleft =>
      cases hcaller with
      | joining hfailure =>
          obtain ⟨ending', hleft', hending⟩ := hnetwork.chain.left hleft
          refine ⟨_, .join hleft', hnetwork, .joining fun hflush => ?_⟩
          rw [hfailure hflush, hending hflush]

theorem Run.simulates (hsim : Simulates flushes R) (run : Run j j') (h : Related flushes R j k) :
    ∃ k', Run k k' ∧ Related flushes R j' k' := by
  induction run with
  | refl => exact ⟨k, .refl, h⟩
  | tail _ hstep ih =>
      obtain ⟨k', run', hk'⟩ := ih
      obtain ⟨k'', hstep', hk''⟩ := hstep.simulates hsim hk'
      exact ⟨k'', run'.tail hstep', hk''⟩

/-- Whatever a job can come to on one target, it can come to on a related one. -/
theorem Returns.simulates (hsim : Simulates flushes R) (hst : R s t) {names : List Text}
    {ps : List Program} {head : Head α} {ends : Ends} {failure : Option PipelineError} {value : α}
    {last : τ} (h : Returns names ps s head ends (failure, value, last)) :
    ∃ ends' failure' last', Returns names ps t head ends' (failure', value, last') ∧
      (flushes → failure = failure') ∧ R last last' := by
  cases h with
  | @mk n result _ run hhead =>
      obtain ⟨⟨m, caller⟩, run', ⟨hm, hchain⟩, hcaller⟩ :=
        run.simulates hsim (related_start flushes hst names ps head)
      obtain ⟨head', chain⟩ := m
      rw [hhead] at hm
      cases hm with
      | ended hresult =>
          cases hcaller with
          | joining hfailure =>
              rw [hresult.1]
              exact ⟨_, _, _, .mk run' rfl, hfailure, hchain.sink⟩

end Job

/-! ## Filters that are carried through -/

theorem Burst.run_simulates (h : Simulates flushes R) (hst : R s t) (b : Burst σ ρ) :
    (b.run s).1 = (b.run t).1 ∧ R (b.run s).2 (b.run t).2 := by
  induction b generalizing s t with
  | stop result => exact ⟨rfl, hst⟩
  | ask state => exact ⟨rfl, hst⟩
  | write chunk next ih =>
      obtain ⟨hanswer, hafter⟩ := h.write hst chunk
      rw [Burst.run_write, Burst.run_write, hanswer]
      exact ih _ hafter

theorem Burst.complete_simulates (h : Simulates flushes R) (hst : R s t) (b : Burst Empty ρ) :
    (b.complete s).1 = (b.complete t).1 ∧ R (b.complete s).2 (b.complete t).2 := by
  induction b generalizing s t with
  | stop result => exact ⟨rfl, hst⟩
  | ask state => exact state.elim
  | write chunk next ih =>
      obtain ⟨hanswer, hafter⟩ := h.write hst chunk
      have hnext := ih (Sink.write s chunk).1 hafter
      have hs : (Burst.write chunk next).complete s =
          (next (Sink.write s chunk).1).complete (Sink.write s chunk).2 := rfl
      have ht : (Burst.write chunk next).complete t =
          (next (Sink.write t chunk).1).complete (Sink.write t chunk).2 := rfl
      rw [hs, ht, ← hanswer]
      exact hnext

theorem Sink.conclude_simulates (h : Simulates flushes R) (hst : R s t) (ending : Ending) :
    (flushes → (Sink.conclude ending s).1 = (Sink.conclude ending t).1) ∧
      R (Sink.conclude ending s).2 (Sink.conclude ending t).2 := by
  cases ending with
  | returned =>
      obtain ⟨hanswer, hafter⟩ := h.flush hst
      rcases hs : Sink.flush s with ⟨_ | e, s'⟩ <;> rcases ht : Sink.flush t with ⟨_ | f, t'⟩ <;>
        simp_all [Sink.conclude]
  | failed e => exact ⟨fun _ => rfl, hst⟩
  | panicked => exact ⟨fun _ => rfl, hst⟩

namespace Stage

variable {p : Program}

/-- Both ask for more, or both have come to an end. -/
inductive Alike (flushes : Prop) : p.State ⊕ Ending → p.State ⊕ Ending → Prop where
  | asks (state : p.State) : Alike flushes (.inl state) (.inl state)
  | ended {e f : Ending} (h : flushes → e = f) : Alike flushes (.inr e) (.inr f)

structure Related (flushes : Prop) (R : τ → υ → Prop) (s : Stage p τ) (t : Stage p υ) : Prop where
  phase : Alike flushes s.phase t.phase
  below : R s.below t.below

theorem settle_related (h : Simulates flushes R) {x : (p.State ⊕ Ending) × τ}
    {y : (p.State ⊕ Ending) × υ} (houtcome : x.1 = y.1) (hbelow : R x.2 y.2) :
    Related flushes R (settle x) (settle y) := by
  obtain ⟨outcome, below⟩ := x
  obtain ⟨outcome', below'⟩ := y
  obtain rfl : outcome = outcome' := houtcome
  cases outcome with
  | inl state => exact ⟨.asks state, hbelow⟩
  | inr ending =>
      obtain ⟨hending, hafter⟩ := Sink.conclude_simulates h hbelow ending
      rw [settle_inr, settle_inr]
      exact ⟨.ended hending, hafter⟩

theorem run_related (h : Simulates flushes R) (hst : R s t) (b : Burst p.State Ending) :
    Related flushes R (settle (b.run s)) (settle (b.run t)) := by
  obtain ⟨houtcome, hafter⟩ := Burst.run_simulates h hst b
  exact settle_related h houtcome hafter

theorem simulates (h : Simulates flushes R) :
    Simulates flushes (Related (p := p) flushes R) where
  write := by
    rintro ⟨phase, below⟩ ⟨phase', below'⟩ ⟨halike, hbelow⟩ chunk
    have hwrite {σ : Type} [Sink σ] (s : Stage p σ) : Sink.write s chunk = s.write chunk := rfl
    simp only [hwrite, Stage.write]
    by_cases hchunk : chunk = []
    · rw [if_pos hchunk, if_pos hchunk]
      exact ⟨rfl, halike, hbelow⟩
    · rw [if_neg hchunk, if_neg hchunk]
      cases halike with
      | asks state => exact ⟨rfl, run_related h hbelow _⟩
      | ended hending => exact ⟨rfl, .ended hending, hbelow⟩
  flush hst := ⟨fun _ => rfl, hst⟩

theorem close_related {s : Stage p τ} {t : Stage p υ} (h : Simulates flushes R)
    (hst : Related flushes R s t) :
    (flushes → s.close.1 = t.close.1) ∧ R s.close.2 t.close.2 := by
  obtain ⟨phase, below⟩ := s
  obtain ⟨phase', below'⟩ := t
  obtain ⟨halike, hbelow⟩ := hst
  cases halike with
  | ended hending => exact ⟨hending, hbelow⟩
  | asks state =>
      obtain ⟨hending, hafter⟩ := Burst.complete_simulates h hbelow (p.finish state)
      rw [close_inl, close_inl, hending]
      exact Sink.conclude_simulates h hafter _

end Stage

namespace Line

/-- Filters in the same phases on related targets. -/
def Related (flushes : Prop) (R : τ → υ → Prop) : (ps : List Program) → Line τ ps → Line υ ps → Prop
  | [] => R
  | _ :: ps => Stage.Related flushes (Related flushes R ps)

theorem simulates (h : Simulates flushes R) (ps : List Program) :
    Simulates flushes (Related flushes R ps) := by
  induction ps with
  | nil => exact h
  | cons p ps ih => exact Stage.simulates ih

theorem start_related (h : Simulates flushes R) (hst : R s t) (ps : List Program) :
    Related flushes R ps (start s ps) (start t ps) := by
  induction ps with
  | nil => exact hst
  | cons p ps ih => exact Stage.run_related (simulates h ps) ih p.start

theorem close_related (h : Simulates flushes R) (ps : List Program) {line : Line τ ps}
    {line' : Line υ ps} (hline : Related flushes R ps line line') :
    (flushes → (close ps line).1 = (close ps line').1) ∧
      R (close ps line).2 (close ps line').2 := by
  induction ps with
  | nil => exact ⟨fun _ => rfl, hline⟩
  | cons p ps ih =>
      obtain ⟨hending, hbelow⟩ := Stage.close_related (simulates h ps) hline
      obtain ⟨hendings, htarget⟩ := ih hbelow
      exact ⟨fun hflush => congrArg₂ _ (hending hflush) (hendings hflush), htarget⟩

end Line

namespace Pipeline

variable {α : Type}

theorem run_simulates (h : Simulates flushes R) (hst : R s t) (names : List Text)
    (ps : List Program) (head : Head α) :
    (flushes → (run names ps s head).1 = (run names ps t head).1) ∧
      (run names ps s head).2.1 = (run names ps t head).2.1 ∧
      R (run names ps s head).2.2 (run names ps t head).2.2 := by
  have hline := Line.simulates h ps
  obtain ⟨hresult, hafter⟩ :=
    Burst.complete_simulates hline (Line.start_related h hst ps) head
  rcases hs : head.complete (Line.start s ps) with ⟨⟨value, failure⟩, line⟩
  rcases ht : head.complete (Line.start t ps) with ⟨⟨value', failure'⟩, line'⟩
  rw [hs, ht] at hresult hafter
  cases hresult
  cases failure with
  | some e =>
      obtain ⟨hendings, htarget⟩ := Line.close_related h ps hafter
      simp only [run, hs, ht]
      exact ⟨fun hflush => by rw [hendings hflush], trivial, htarget⟩
  | none =>
      obtain ⟨hanswer, hflushed⟩ := hline.flush hafter
      obtain ⟨hendings, htarget⟩ := Line.close_related h ps hflushed
      simp only [run, hs, ht]
      exact ⟨fun hflush => by rw [hanswer hflush, hendings hflush], trivial, htarget⟩

end Pipeline

end MenuLine
