import Mathlib.Logic.Relation
import MenuLine.Network
import MenuLine.Proofs.Relay
import MenuLine.Proofs.Transform

/-!
# What a network delivers

In whatever order the head and the filters of a pipeline take their steps,
the target gets the same bytes. `Chain.result` says what a chain will have
delivered once it has been given the rest of its input; no step changes it.
-/

namespace MenuLine

namespace Chain

variable {τ : Type}

def Abandoned : Chain τ → Prop
  | target _ => False
  | stage _ relay _ _ => relay.writerOpen = false

/-- The filter next to the head reads no more. -/
def Deaf : Chain τ → Prop
  | target _ => False
  | stage _ relay _ _ => relay.readerOpen = false

/-- What the target will have got once the chain is given this stream. -/
def result (seen : τ → Bytes) : Chain τ → Bytes → Bytes
  | target sink, stream => seen sink ++ stream
  | stage p relay (.working b) below, stream =>
    below.result seen (p.output (Program.inOne (relay.pending ++ stream)) b)
  | stage _ _ (.ended _) below, _ => below.result seen []

/-- What no step breaks: a filter at work holds on to both its relays, and
it is steady on the rest of its input if what it writes still matters. -/
inductive Sound : Chain τ → Prop where
  | target (sink : τ) : Sound (target sink)
  | working {p : Program} {relay : Relay} {b : Burst p.State Ending} {below : Chain τ}
      (hrelay : relay.Sound) (hreads : relay.readerOpen = true) (hholds : ¬ below.Abandoned)
      (hsteady : below.Deaf ∨ p.SteadyFrom b) (hbelow : below.Sound) :
      Sound (stage p relay (.working b) below)
  | ended {p : Program} {relay : Relay} {ending : Ending} {below : Chain τ}
      (hrelay : relay.Sound) (hbelow : below.Sound) : Sound (stage p relay (.ended ending) below)

variable {p : Program} {relay relay' : Relay} {activity : Activity p.State Ending}
  {below after c d : Chain τ} {seen : τ → Bytes}

theorem Sound.relay_sound (hc : (stage p relay activity below).Sound) : relay.Sound := by
  cases hc <;> assumption

theorem Sound.below_sound (hc : (stage p relay activity below).Sound) : below.Sound := by
  cases hc <;> assumption

theorem Sound.changeRelay (hc : (stage p relay activity below).Sound) (hrelay : relay'.Sound)
    (hreads : relay'.readerOpen = relay.readerOpen) :
    (stage p relay' activity below).Sound := by
  cases hc with
  | working _ hr hholds hsteady hbelow =>
      exact .working hrelay (hreads.trans hr) hholds hsteady hbelow
  | ended _ hbelow => exact .ended hrelay hbelow

/-- Nothing that is given to a deaf chain gets anywhere. -/
theorem Sound.result_deaf (hc : c.Sound) (hdeaf : c.Deaf) (x y : Bytes) :
    c.result seen x = c.result seen y := by
  cases hc with
  | target sink => exact hdeaf.elim
  | working _ hreads _ _ _ => simp [Deaf, hreads] at hdeaf
  | ended => rfl

theorem result_changeRelay (h : ∀ x : Bytes, relay'.pending ++ x = relay.pending ++ x)
    (x : Bytes) :
    (stage p relay' activity below).result seen x =
      (stage p relay activity below).result seen x := by
  cases activity with
  | working b => simp only [result, h]
  | ended ending => rfl

/-- A chain before and after a step that its writer has no part in. -/
structure Kept (seen : τ → Bytes) (c d : Chain τ) : Prop where
  sound : d.Sound
  abandoned : d.Abandoned ↔ c.Abandoned
  deaf : c.Deaf → d.Deaf
  result : ∀ x, (c.Abandoned → x = []) → d.result seen x = c.result seen x

theorem Kept.refl (hc : c.Sound) : Kept seen c c :=
  ⟨hc, Iff.rfl, id, fun _ _ => rfl⟩

theorem Sound.dropWriter (seen : τ → Bytes) (hc : c.Sound) (h : c.dropWriter? = some d) :
    d.Sound ∧ d.Abandoned ∧ (c.Deaf → d.Deaf) ∧ ∀ x, d.result seen x = c.result seen x := by
  cases c with
  | target sink => cases h
  | stage p relay activity below =>
      simp only [dropWriter?] at h
      split at h
      · cases h
        exact ⟨hc.changeRelay hc.relay_sound.dropWriter rfl, rfl, id,
          result_changeRelay fun _ => rfl⟩
      · cases h

/-! ## One step of a filter -/

theorem kept_read {state : p.State} {size : Nat} {found : Bytes} (hfound : found ≠ [])
    (hc : (stage p relay (.working (.ask state)) below).Sound)
    (h : relay.read? size = some (found, relay')) :
    Kept seen (stage p relay (.working (.ask state)) below)
      (stage p relay' (.working (p.feed state found)) below) := by
  cases hc with
  | working hrelay hreads hholds hsteady hbelow =>
      obtain ⟨hw, hr⟩ := Relay.read?_ends h
      refine ⟨.working (hrelay.read h) (hr.trans hreads) hholds
        (hsteady.imp_right fun hs => hs.feed hfound) hbelow,
        by simp [Abandoned, hw], fun hd => hr.trans hd, fun x _ => ?_⟩
      rw [result, result, ← Relay.read_append_pending h]
      -- A deaf chain does not care what is read, and in front of any other the filter is steady.
      rcases hsteady with hd | hs
      · exact hbelow.result_deaf hd _ _
      · rw [hs.output_feed hfound, List.append_assoc]

theorem kept_readEnd {state : p.State} {size : Nat} (hsize : 0 < size)
    (hc : (stage p relay (.working (.ask state)) below).Sound)
    (h : relay.read? size = some ([], relay')) :
    Kept seen (stage p relay (.working (.ask state)) below)
      (stage p relay' (.working (p.finish state).widen) below) := by
  cases hc with
  | working hrelay hreads hholds hsteady hbelow =>
      obtain ⟨hw, hr⟩ := Relay.read?_ends h
      obtain ⟨hclosed, hpending⟩ := Relay.read_nil hsize h
      refine ⟨.working (hrelay.read h) (hr.trans hreads) hholds
        (.inr (Program.steadyFrom_widen _)) hbelow,
        by simp [Abandoned, hw], fun hd => hr.trans hd, fun x hx => ?_⟩
      obtain rfl := hx hclosed
      rw [result, result, hpending, Program.output_widen]
      rfl

theorem kept_dropReader {ending : Ending} (hc : (stage p relay (.ended ending) below).Sound) :
    Kept seen (stage p relay (.ended ending) below)
      (stage p relay.dropReader (.ended ending) below) :=
  ⟨.ended hc.relay_sound.dropReader hc.below_sound, Iff.rfl, fun _ => rfl, fun _ _ => rfl⟩

theorem kept_dropWriter {ending : Ending} (hc : (stage p relay (.ended ending) below).Sound)
    (h : below.dropWriter? = some after) :
    Kept seen (stage p relay (.ended ending) below) (stage p relay (.ended ending) after) := by
  obtain ⟨hafter, -, -, hresult⟩ := hc.below_sound.dropWriter seen h
  exact ⟨.ended hc.relay_sound hafter, Iff.rfl, id, fun _ _ => hresult []⟩

theorem Kept.stage (hc : (stage p relay activity below).Sound) (h : Kept seen below after) :
    Kept seen (Chain.stage p relay activity below) (Chain.stage p relay activity after) := by
  cases hc with
  | working hrelay hreads hholds hsteady hbelow =>
      exact ⟨.working hrelay hreads (fun ha => hholds (h.abandoned.1 ha)) (hsteady.imp_left h.deaf)
        h.sound, Iff.rfl, id, fun x _ => h.result _ fun ha => absurd ha hholds⟩
  | ended hrelay hbelow =>
      exact ⟨.ended hrelay h.sound, Iff.rfl, id, fun _ _ => h.result [] fun _ => rfl⟩

variable [Sink τ]

theorem exists_of_write? {chunk : Bytes} {e : Option IoError}
    (h : (stage p relay activity below).write? chunk = some (e, d)) :
    ∃ result after, relay.write? chunk = some (result, after) ∧
      d = stage p after activity below := by
  obtain ⟨⟨result, after⟩, hwrite, he⟩ := Option.map_eq_some_iff.1 h
  refine ⟨result, after, hwrite, ?_⟩
  cases result with
  | ok n =>
      cases he
      rfl
  | error e =>
      cases he
      rfl

/-- A write is accepted and gets to the target in its own time, or it is
refused by a chain that is deaf. -/
theorem Sound.write (hseen : Sink.Accepting seen) (hc : c.Sound) {chunk : Bytes}
    {e : Option IoError} (h : c.write? chunk = some (e, d)) :
    d.Sound ∧ (d.Abandoned ↔ c.Abandoned) ∧ (c.Deaf → d.Deaf) ∧
      ((e = none ∧ ∀ x, d.result seen x = c.result seen (chunk ++ x)) ∨ (d = c ∧ c.Deaf)) := by
  cases c with
  | target sink =>
      cases h
      refine ⟨.target _, Iff.rfl, id, .inl ⟨hseen.write_fst sink chunk, fun x => ?_⟩⟩
      simp [Chain.result, hseen.seen_write]
  | stage p relay activity below =>
      obtain ⟨⟨result, after⟩, hwrite, he⟩ := Option.map_eq_some_iff.1 h
      have hafter := hc.relay_sound.write hwrite
      obtain ⟨rfl, rfl, rfl⟩ | ⟨-, hgone, rfl, rfl⟩ | ⟨-, -, -, rfl, rfl⟩ :=
        Relay.write?_cases hwrite
      · cases he
        exact ⟨hc, Iff.rfl, id, .inl ⟨rfl, fun _ => rfl⟩⟩
      · cases he
        exact ⟨hc, Iff.rfl, id, .inr ⟨rfl, hgone⟩⟩
      · cases he
        refine ⟨hc.changeRelay hafter rfl, Iff.rfl, id, .inl ⟨rfl, fun x => ?_⟩⟩
        cases activity with
        | working b => simp [Chain.result]
        | ended ending => rfl

theorem kept_write (hseen : Sink.Accepting seen) {chunk : Bytes}
    {next : Option IoError → Burst p.State Ending} {e : Option IoError}
    (hc : (stage p relay (.working (.write chunk next)) below).Sound)
    (h : below.write? chunk = some (e, after)) :
    Kept seen (stage p relay (.working (.write chunk next)) below)
      (stage p relay (.working (next e)) after) := by
  cases hc with
  | working hrelay hreads hholds hsteady hbelow =>
      obtain ⟨hafter, habandoned, hdeaf, ⟨rfl, hresult⟩ | ⟨rfl, hd⟩⟩ := hbelow.write hseen h
      · refine ⟨.working hrelay hreads (fun ha => hholds (habandoned.1 ha))
          (hsteady.imp hdeaf Program.steadyFrom_write.1) hafter, Iff.rfl, id, fun x _ => ?_⟩
        rw [result, result, hresult, Program.output_write]
      · exact ⟨.working hrelay hreads hholds (.inl hd) hafter, Iff.rfl, id,
          fun x _ => hbelow.result_deaf hd _ _⟩

theorem Sound.flush (hseen : Sink.Accepting seen) (hc : c.Sound) : Kept seen c c.flush.2 := by
  cases c with
  | target sink =>
      refine ⟨.target _, Iff.rfl, id, fun x _ => ?_⟩
      simp [Chain.flush, Chain.result, hseen.seen_flush]
  | stage p relay activity below => exact .refl hc

theorem conclude_snd (ending : Ending) (c : Chain τ) :
    (conclude ending c).2 = c ∨ (conclude ending c).2 = c.flush.2 := by
  cases ending with
  | returned =>
      right
      rcases hf : c.flush with ⟨_ | e, d⟩ <;> simp [conclude, hf]
  | failed e => exact .inl rfl
  | panicked => exact .inl rfl

theorem kept_stop (hseen : Sink.Accepting seen) {ending : Ending}
    (hc : (stage p relay (.working (.stop ending)) below).Sound) :
    Kept seen (stage p relay (.working (.stop ending)) below)
      (stage p relay (.ended (conclude ending below).1) (conclude ending below).2) := by
  have hkept : Kept seen below (conclude ending below).2 := by
    rcases conclude_snd ending below with h | h
    · rw [h]
      exact .refl hc.below_sound
    · rw [h]
      exact hc.below_sound.flush hseen
  refine ⟨.ended hc.relay_sound hkept.sound, Iff.rfl, id, fun x _ => ?_⟩
  rw [result, result, Program.output_stop]
  exact hkept.result [] fun _ => rfl

/-- No step of a filter changes what the target will get. -/
theorem Step.kept (hseen : Sink.Accepting seen) (h : Step c d) (hc : c.Sound) :
    Kept seen c d := by
  induction h with
  | write h => exact kept_write hseen hc h
  | read hsize hfound h => exact kept_read hfound hc h
  | readEnd hsize h => exact kept_readEnd hsize hc h
  | stop => exact kept_stop hseen hc
  | dropReader h => exact kept_dropReader hc
  | dropWriter _ h => exact kept_dropWriter hc h
  | deeper h ih => exact (ih hc.below_sound).stage hc

omit [Sink τ] in
theorem sound_start (sink : τ) {ps : List Program} (hps : ∀ p ∈ ps, p.Steady) :
    (start sink ps).Sound ∧ ¬ (start sink ps).Abandoned := by
  induction ps with
  | nil => exact ⟨.target sink, id⟩
  | cons p ps ih =>
      obtain ⟨hsound, hholds⟩ := ih fun q hq => hps q (List.mem_cons_of_mem p hq)
      exact ⟨.working Relay.sound_start rfl hholds (.inr (hps p List.mem_cons_self)) hsound,
        by simp [start, Abandoned]⟩

omit [Sink τ] in
theorem result_start (sink : τ) (ps : List Program) (x : Bytes) :
    (start sink ps).result seen x = seen sink ++ Program.compose ps x := by
  induction ps generalizing x with
  | nil => rfl
  | cons p ps ih => exact ih (p.transform x)

omit [Sink τ] in
theorem result_of_finished {c : Chain τ} (h : c.Finished) :
    c.result seen [] = seen c.sink := by
  induction c with
  | target sink => exact List.append_nil _
  | stage p relay activity below ih =>
      obtain ⟨⟨ending, rfl⟩, -, -, hbelow⟩ := h
      exact ih hbelow

end Chain

namespace Network

variable {α τ : Type} {seen : τ → Bytes}

def remaining : Activity Empty (HeadResult α) → Bytes
  | .working b => b.written
  | .ended _ => []

def result (seen : τ → Bytes) (n : Network α τ) : Bytes :=
  n.chain.result seen (remaining n.head)

/-- What no step breaks. -/
structure Sound (n : Network α τ) : Prop where
  chain : n.chain.Sound
  head : n.chain.Abandoned → ∃ result, n.head = .ended result

theorem Sound.remaining_eq_nil {n : Network α τ} (hn : n.Sound) (ha : n.chain.Abandoned) :
    remaining n.head = [] := by
  obtain ⟨result, hhead⟩ := hn.head ha
  rw [hhead]
  rfl

theorem sound_start {ps : List Program} (hps : ∀ p ∈ ps, p.Steady) (target : τ) (head : Head α) :
    (start ps target head).Sound := by
  obtain ⟨hchain, hholds⟩ := Chain.sound_start target hps
  exact ⟨hchain, fun ha => absurd ha hholds⟩

theorem result_start (ps : List Program) (target : τ) (head : Head α) :
    (start ps target head).result seen = seen target ++ Program.compose ps head.written :=
  Chain.result_start target ps head.written

theorem result_of_finished {n : Network α τ} (h : n.Finished) :
    n.result seen = seen n.chain.sink := by
  obtain ⟨⟨result, hhead⟩, -, hchain⟩ := h
  rw [Network.result, hhead]
  exact Chain.result_of_finished hchain

variable [Sink τ]

theorem conclude_snd (result : HeadResult α) (chain : Chain τ) :
    (conclude result chain).2 = chain ∨ (conclude result chain).2 = chain.flush.2 := by
  unfold conclude
  cases result.failure with
  | some e => exact .inl rfl
  | none => exact .inr rfl

/-- No step changes what the target will get. -/
theorem Step.kept (hseen : Sink.Accepting seen) {n m : Network α τ} (h : Step n m)
    (hn : n.Sound) : m.Sound ∧ m.result seen = n.result seen := by
  cases h with
  | @write chunk next chain after e h =>
      have hholds : ¬ chain.Abandoned := by
        intro ha
        obtain ⟨result, hhead⟩ := hn.head ha
        cases hhead
      obtain ⟨hafter, habandoned, -, hresult⟩ := hn.chain.write hseen h
      refine ⟨⟨hafter, fun ha => absurd (habandoned.1 ha) hholds⟩, ?_⟩
      obtain ⟨rfl, hresult⟩ | ⟨rfl, hd⟩ := hresult
      · exact hresult _
      · exact hn.chain.result_deaf hd _ _
  | @stop result chain =>
      have hkept : Chain.Kept seen chain (conclude result chain).2 := by
        rcases conclude_snd result chain with h | h
        · rw [h]
          exact .refl hn.chain
        · rw [h]
          exact hn.chain.flush hseen
      exact ⟨⟨hkept.sound, fun _ => ⟨_, rfl⟩⟩, hkept.result [] fun _ => rfl⟩
  | @leave result chain after h =>
      obtain ⟨hafter, -, -, hresult⟩ := hn.chain.dropWriter seen h
      exact ⟨⟨hafter, fun _ => ⟨_, rfl⟩⟩, hresult []⟩
  | @chain head chain after h =>
      have hkept := h.kept hseen hn.chain
      exact ⟨⟨hkept.sound, fun ha => hn.head (hkept.abandoned.1 ha)⟩,
        hkept.result _ hn.remaining_eq_nil⟩

abbrev Run : Network α τ → Network α τ → Prop := Relation.ReflTransGen Step

theorem Run.kept (hseen : Sink.Accepting seen) {n m : Network α τ} (run : Run n m)
    (hn : n.Sound) : m.Sound ∧ m.result seen = n.result seen := by
  induction run with
  | refl => exact ⟨hn, rfl⟩
  | tail _ hstep ih =>
      obtain ⟨hsound, hresult⟩ := hstep.kept hseen ih.1
      exact ⟨hsound, hresult.trans ih.2⟩

/-- Every order of steps that brings the head and the filters to their ends
gives the target what the filters, in the order of the chain, make of what
the head writes. -/
theorem seen_of_finished (hseen : Sink.Accepting seen) {ps : List Program}
    (hps : ∀ p ∈ ps, p.Steady) {target : τ} {head : Head α} {n : Network α τ}
    (run : Run (start ps target head) n) (hn : n.Finished) :
    seen n.chain.sink = seen target ++ Program.compose ps head.written := by
  calc
    seen n.chain.sink = n.result seen := (result_of_finished hn).symm
    _ = (start ps target head).result seen := (run.kept hseen (sound_start hps target head)).2
    _ = _ := result_start ps target head

end Network

end MenuLine
