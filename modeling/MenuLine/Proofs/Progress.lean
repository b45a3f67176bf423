import MenuLine.Proofs.Network

/-!
# No network gets stuck

A writer waits only for a relay that is full, a reader only for one that is
empty, and both hold on to their ends of it until they are done. So the filter
nearest to the target that has to wait is the first that would have to wait for
itself, and `Network.exists_step` says that there is none: while the head or a
filter has not come to its end, one of them can take a step. Nothing is asked
of the filters here.
-/

namespace MenuLine

namespace Relay

/-- A writer has to wait: there is no room, and somebody may still make some. -/
structure Full (r : Relay) : Prop where
  readerOpen : r.readerOpen = true
  capacity_le : r.channel.capacity ≤ r.channel.items.length

/-- A reader has to wait: there is nothing to read, and more may still come. -/
structure Empty (r : Relay) : Prop where
  writerOpen : r.writerOpen = true
  items : r.channel.items = []
  unread : r.unread = []

theorem write?_eq_none_iff {r : Relay} {chunk : Bytes} (hw : r.writerOpen = true) :
    r.write? chunk = none ↔ chunk ≠ [] ∧ r.Full := by
  have hsend : r.channel.send? chunk = none ↔ r.Full :=
    Channel.send?_eq_none_iff.trans ⟨fun h => ⟨h.1, h.2⟩, fun h => ⟨h.1, h.2⟩⟩
  by_cases hchunk : chunk = []
  · simp [write?, hw, hchunk]
  · rcases hs : r.channel.send? chunk with _ | _ | channel
    · simpa [write?, hw, hchunk, hs] using hsend.1 hs
    · simpa [write?, hw, hchunk, hs] using hsend
    · simpa [write?, hw, hchunk, hs] using hsend

/-- The chunks on their way are never empty, so one that the reader takes is
something to read. -/
theorem refill?_eq_none_iff {r : Relay} (hne : ∀ chunk ∈ r.channel.items, chunk ≠ []) :
    r.refill? = none ↔ r.Empty := by
  constructor
  · intro h
    rw [refill?] at h
    split at h
    · cases h
    · next hused =>
        split at h
        · next hreceive =>
            obtain ⟨hitems, hopen⟩ := Channel.receive?_eq_none_iff.1 hreceive
            exact ⟨hopen, hitems, unread_eq_nil_iff.2 (Nat.not_lt.1 hused)⟩
        · cases h
        · next chunk channel hreceive =>
            obtain ⟨hitems, -⟩ := Channel.receive?_eq_some_some_iff.1 hreceive
            have hchunk : chunk ≠ [] := hne chunk (by simp [hitems])
            have hpos : 0 < chunk.length := List.length_pos_iff.2 hchunk
            rw [refill?, if_pos hpos] at h
            cases h
  · intro h
    have hused : ¬ r.position < r.chunk.length := Nat.not_lt.2 (unread_eq_nil_iff.1 h.unread)
    have hreceive : r.channel.receive? = none :=
      Channel.receive?_eq_none_iff.2 ⟨h.items, h.writerOpen⟩
    rw [refill?, if_neg hused, hreceive]

theorem Sound.read?_eq_none_iff {r : Relay} (hs : r.Sound) (hr : r.readerOpen = true)
    {size : Nat} (hsize : 0 < size) : r.read? size = none ↔ r.Empty := by
  rw [← refill?_eq_none_iff hs.nonempty]
  simp [read?, hr, Nat.ne_of_gt hsize]

theorem Sound.not_full_of_empty {r : Relay} (hs : r.Sound) (h : r.Empty) : ¬ r.Full := by
  intro hfull
  have hroom := hfull.capacity_le
  rw [hs.capacity, h.items] at hroom
  exact absurd hroom (by simp)

end Relay

namespace Chain

variable {τ : Type}

/-- A filter at work holds on to both its relays. -/
inductive Coupled : Chain τ → Prop where
  | target (sink : τ) : Coupled (target sink)
  | working {p : Program} {relay : Relay} {b : Burst p.State Ending} {below : Chain τ}
      (hrelay : relay.Sound) (hreads : relay.readerOpen = true) (hholds : ¬ below.Abandoned)
      (hbelow : below.Coupled) : Coupled (stage p relay (.working b) below)
  | ended {p : Program} {relay : Relay} {ending : Ending} {below : Chain τ}
      (hrelay : relay.Sound) (hbelow : below.Coupled) :
      Coupled (stage p relay (.ended ending) below)

variable {p : Program} {relay relay' : Relay} {activity : Activity p.State Ending}
  {below after c d : Chain τ}

theorem Coupled.relay_sound (hc : (stage p relay activity below).Coupled) : relay.Sound := by
  cases hc <;> assumption

theorem Coupled.below_coupled (hc : (stage p relay activity below).Coupled) : below.Coupled := by
  cases hc <;> assumption

theorem Coupled.changeRelay (hc : (stage p relay activity below).Coupled) (hrelay : relay'.Sound)
    (hreads : relay'.readerOpen = relay.readerOpen) :
    (stage p relay' activity below).Coupled := by
  cases hc with
  | working _ hr hholds hbelow => exact .working hrelay (hreads.trans hr) hholds hbelow
  | ended _ hbelow => exact .ended hrelay hbelow

theorem Coupled.changeBelow (hc : (stage p relay activity below).Coupled) (hafter : after.Coupled)
    (habandoned : after.Abandoned ↔ below.Abandoned) :
    (stage p relay activity after).Coupled := by
  cases hc with
  | working hrelay hreads hholds _ =>
      exact .working hrelay hreads (fun ha => hholds (habandoned.1 ha)) hafter
  | ended hrelay _ => exact .ended hrelay hafter

theorem Coupled.dropWriter (hc : c.Coupled) (h : c.dropWriter? = some d) : d.Coupled := by
  cases c with
  | target sink => cases h
  | stage p relay activity below =>
      simp only [dropWriter?] at h
      split at h
      · cases h
        exact hc.changeRelay hc.relay_sound.dropWriter rfl
      · cases h

variable [Sink τ]

theorem Coupled.write (hc : c.Coupled) {chunk : Bytes} {e : Option IoError}
    (h : c.write? chunk = some (e, d)) : d.Coupled ∧ (d.Abandoned ↔ c.Abandoned) := by
  cases c with
  | target sink =>
      cases h
      exact ⟨.target _, Iff.rfl⟩
  | stage p relay activity below =>
      obtain ⟨result, after, hwrite, rfl⟩ := exists_of_write? h
      have hafter := hc.relay_sound.write hwrite
      obtain ⟨hw, hr⟩ := Relay.write?_ends hwrite
      exact ⟨hc.changeRelay hafter hr, by simp [Abandoned, hw]⟩

theorem Coupled.flush (hc : c.Coupled) : c.flush.2.Coupled := by
  cases c with
  | target sink => exact .target _
  | stage p relay activity below => exact hc

theorem Coupled.conclude (hc : c.Coupled) (ending : Ending) : (c.conclude ending).2.Coupled := by
  rcases conclude_snd ending c with h | h
  · rw [h]
    exact hc
  · rw [h]
    exact hc.flush

/-- A step of a filter leaves alone what its writer holds. -/
theorem Step.coupled (h : Step c d) (hc : c.Coupled) :
    d.Coupled ∧ (d.Abandoned ↔ c.Abandoned) := by
  induction h with
  | write h =>
      cases hc with
      | working hrelay hreads hholds hbelow =>
          obtain ⟨hafter, habandoned⟩ := hbelow.write h
          exact ⟨.working hrelay hreads (fun ha => hholds (habandoned.1 ha)) hafter, Iff.rfl⟩
  | read hsize hfound h =>
      cases hc with
      | working hrelay hreads hholds hbelow =>
          obtain ⟨hw, hr⟩ := Relay.read?_ends h
          exact ⟨.working (hrelay.read h) (hr.trans hreads) hholds hbelow, by simp [Abandoned, hw]⟩
  | readEnd hsize h =>
      cases hc with
      | working hrelay hreads hholds hbelow =>
          obtain ⟨hw, hr⟩ := Relay.read?_ends h
          exact ⟨.working (hrelay.read h) (hr.trans hreads) hholds hbelow, by simp [Abandoned, hw]⟩
  | stop => exact ⟨.ended hc.relay_sound (hc.below_coupled.conclude _), Iff.rfl⟩
  | dropReader h => exact ⟨.ended hc.relay_sound.dropReader hc.below_coupled, Iff.rfl⟩
  | dropWriter _ h => exact ⟨.ended hc.relay_sound (hc.below_coupled.dropWriter h), Iff.rfl⟩
  | deeper h ih =>
      obtain ⟨hafter, habandoned⟩ := ih hc.below_coupled
      exact ⟨hc.changeBelow hafter habandoned, Iff.rfl⟩

omit [Sink τ] in
theorem coupled_start (sink : τ) (ps : List Program) :
    (start sink ps).Coupled ∧ ¬ (start sink ps).Abandoned := by
  induction ps with
  | nil => exact ⟨.target sink, id⟩
  | cons p ps ih =>
      obtain ⟨hbelow, hholds⟩ := ih
      exact ⟨.working Relay.sound_start rfl hholds hbelow, by simp [start, Abandoned]⟩

/-! ## Who can take a step -/

/-- Whoever writes to the chain has to wait. -/
def Full : Chain τ → Prop
  | target _ => False
  | stage _ relay _ _ => relay.Full

/-- The filter next to the head finds nothing to read. -/
def Hungry : Chain τ → Prop
  | target _ => False
  | stage _ relay _ _ => relay.Empty

/-- Every filter that has not come to its end waits for a relay that is full or
for one that is empty. -/
def Stalled : Chain τ → Prop
  | target _ => True
  | stage _ _ (.working (.write chunk _)) below => (chunk ≠ [] ∧ below.Full) ∧ below.Stalled
  | stage _ relay (.working (.ask _)) below => relay.Empty ∧ below.Stalled
  | stage _ _ (.working (.stop _)) _ => False
  | stage _ relay (.ended _) below =>
    (relay.readerOpen = false ∧ below.Released) ∧ below.Stalled

omit [Sink τ] in
theorem dropWriter?_eq_none_iff : c.dropWriter? = none ↔ c.Released := by
  cases c with
  | target sink => simp [dropWriter?, Released]
  | stage p relay activity below => simp [dropWriter?, Released]

/-- Nobody waits to write to a chain but for a relay that is full. -/
theorem write?_eq_none_iff (hholds : ¬ c.Abandoned) {chunk : Bytes} :
    c.write? chunk = none ↔ chunk ≠ [] ∧ c.Full := by
  cases c with
  | target sink => simp [write?, Full]
  | stage p relay activity below =>
      have hopen : relay.writerOpen = true := by simpa [Abandoned] using hholds
      have hrelay : relay.write? chunk = none ↔ chunk ≠ [] ∧ relay.Full :=
        Relay.write?_eq_none_iff hopen
      simpa [write?, Full] using hrelay

/-- Where everybody waits nobody can take a step. -/
theorem Coupled.not_step_of_stalled (hc : c.Coupled) (hstalled : c.Stalled) : ¬ Step c d := by
  intro h
  induction h with
  | write h =>
      cases hc with
      | working _ _ hholds _ =>
          have hnone := (write?_eq_none_iff hholds).2 hstalled.1
          rw [hnone] at h
          cases h
  | read hsize _ h =>
      cases hc with
      | working hrelay hreads _ _ =>
          have hnone := (hrelay.read?_eq_none_iff hreads hsize).2 hstalled.1
          rw [hnone] at h
          cases h
  | readEnd hsize h =>
      cases hc with
      | working hrelay hreads _ _ =>
          have hnone := (hrelay.read?_eq_none_iff hreads hsize).2 hstalled.1
          rw [hnone] at h
          cases h
  | stop => exact hstalled
  | dropReader h =>
      rw [hstalled.1.1] at h
      cases h
  | dropWriter _ h =>
      rw [dropWriter?_eq_none_iff.2 hstalled.1.2] at h
      cases h
  | @deeper p relay activity below after h ih =>
      refine ih hc.below_coupled ?_
      cases activity with
      | ended ending => exact hstalled.2
      | working b =>
          cases b with
          | stop ending => exact hstalled.elim
          | ask state => exact hstalled.2
          | write chunk next => exact hstalled.2

omit [Sink τ] in
/-- A filter that has come to its end, or that has nothing to read, has room
for more. -/
theorem Coupled.not_full (hc : c.Coupled) (h : c.Finished ∨ c.Hungry) : ¬ c.Full := by
  cases c with
  | target sink => exact id
  | stage p relay activity below =>
      rcases h with ⟨-, hgone, -⟩ | hempty
      · intro hfull
        have hreads := hfull.readerOpen
        rw [hgone] at hreads
        cases hreads
      · exact hc.relay_sound.not_full_of_empty hempty

omit [Sink τ] in
/-- Nobody waits for a writer that is done. -/
theorem Released.finished (hreleased : c.Released) (h : c.Finished ∨ c.Hungry) : c.Finished := by
  cases c with
  | target sink => trivial
  | stage p relay activity below =>
      rcases h with hfinished | hempty
      · exact hfinished
      · have hopen := hempty.writerOpen
        rw [hreleased] at hopen
        cases hopen

/-- By induction from the target upwards: where no filter can take a step, all
of them have come to their ends or the one next to the head has nothing to
read. -/
theorem Coupled.finished_or_hungry (hc : c.Coupled) (hstuck : ∀ d, ¬ Step c d) :
    c.Finished ∨ c.Hungry := by
  induction c with
  | target sink => exact .inl trivial
  | stage p relay activity below ih =>
      have hbelow : below.Finished ∨ below.Hungry :=
        ih hc.below_coupled fun d hd => hstuck _ (.deeper hd)
      cases hc with
      | @working _ _ b _ hrelay hreads hholds hcoupled =>
          cases b with
          | stop ending => exact absurd .stop (hstuck _)
          | write chunk next =>
              rcases hwrite : below.write? chunk with _ | ⟨e, after⟩
              · exact absurd ((write?_eq_none_iff hholds).1 hwrite).2 (hcoupled.not_full hbelow)
              · exact absurd (.write hwrite) (hstuck _)
          | ask state =>
              rcases hread : relay.read? 1 with _ | ⟨found, after⟩
              · exact .inr ((hrelay.read?_eq_none_iff hreads Nat.one_pos).1 hread)
              · by_cases hfound : found = []
                · subst hfound
                  exact absurd (.readEnd Nat.one_pos hread) (hstuck _)
                · exact absurd (.read Nat.one_pos hfound hread) (hstuck _)
      | @ended _ _ ending _ hrelay hcoupled =>
          have hgone : relay.readerOpen = false := by
            rw [← Bool.not_eq_true]
            intro hr
            exact hstuck _ (.dropReader hr)
          have hreleased : below.Released := by
            rw [← dropWriter?_eq_none_iff]
            rcases hdrop : below.dropWriter? with _ | after
            · rfl
            · exact absurd (.dropWriter hgone hdrop) (hstuck _)
          exact .inl ⟨⟨ending, rfl⟩, hgone, hreleased, hreleased.finished hbelow⟩

end Chain

namespace Network

variable {α τ : Type}

/-- What no step breaks. -/
structure Coupled (n : Network α τ) : Prop where
  chain : n.chain.Coupled
  head : n.chain.Abandoned → ∃ result, n.head = .ended result

/-- Whoever has not come to an end waits for a relay that is full or for one
that is empty. -/
def Stalled (n : Network α τ) : Prop :=
  match n.head with
  | .working (.write chunk _) => (chunk ≠ [] ∧ n.chain.Full) ∧ n.chain.Stalled
  | .working (.ask state) => nomatch state
  | .working (.stop _) => False
  | .ended _ => n.chain.Released ∧ n.chain.Stalled

theorem coupled_start (ps : List Program) (target : τ) (head : Head α) :
    (start ps target head).Coupled := by
  obtain ⟨hchain, hholds⟩ := Chain.coupled_start target ps
  exact ⟨hchain, fun ha => absurd ha hholds⟩

theorem Coupled.holds {b : Head α} {chain : Chain τ} (hn : Coupled ⟨.working b, chain⟩) :
    ¬ chain.Abandoned := by
  intro ha
  obtain ⟨result, hhead⟩ := hn.head ha
  cases hhead

variable [Sink τ] {n m : Network α τ}

theorem Step.coupled (h : Step n m) (hn : n.Coupled) : m.Coupled := by
  cases h with
  | write h =>
      obtain ⟨hafter, habandoned⟩ := hn.chain.write h
      exact ⟨hafter, fun ha => absurd (habandoned.1 ha) hn.holds⟩
  | @stop result chain =>
      have hchain : (conclude result chain).2.Coupled := by
        rcases conclude_snd result chain with h | h
        · rw [h]
          exact hn.chain
        · rw [h]
          exact hn.chain.flush
      exact ⟨hchain, fun _ => ⟨_, rfl⟩⟩
  | leave h => exact ⟨hn.chain.dropWriter h, fun _ => ⟨_, rfl⟩⟩
  | chain h =>
      obtain ⟨hafter, habandoned⟩ := h.coupled hn.chain
      exact ⟨hafter, fun ha => hn.head (habandoned.1 ha)⟩

theorem Run.coupled (run : Run n m) (hn : n.Coupled) : m.Coupled := by
  induction run with
  | refl => exact hn
  | tail _ hstep ih => exact hstep.coupled ih

theorem Coupled.not_step_of_stalled (hn : n.Coupled) (hstalled : n.Stalled) : ¬ Step n m := by
  intro h
  cases h with
  | write h =>
      rw [(Chain.write?_eq_none_iff hn.holds).2 hstalled.1] at h
      cases h
  | stop => exact hstalled
  | leave h =>
      rw [Chain.dropWriter?_eq_none_iff.2 hstalled.1] at h
      cases h
  | @chain head chain after h =>
      refine hn.chain.not_step_of_stalled ?_ h
      cases head with
      | ended result => exact hstalled.2
      | working b =>
          cases b with
          | stop result => exact hstalled.elim
          | ask state => exact state.elim
          | write chunk next => exact hstalled.2

/-- Where nobody can take a step, everybody has come to an end. -/
theorem Coupled.finished_of_not_step (hn : n.Coupled) (hstuck : ∀ m, ¬ Step n m) :
    n.Finished := by
  obtain ⟨activity, chain⟩ := n
  have hidle : chain.Finished ∨ chain.Hungry :=
    hn.chain.finished_or_hungry fun d hd => hstuck _ (.chain hd)
  cases activity with
  | working b =>
      cases b with
      | stop result => exact absurd .stop (hstuck _)
      | ask state => exact state.elim
      | write chunk next =>
          rcases hwrite : chain.write? chunk with _ | ⟨e, after⟩
          · have hfull := ((Chain.write?_eq_none_iff hn.holds).1 hwrite).2
            exact absurd hfull (hn.chain.not_full hidle)
          · exact absurd (.write hwrite) (hstuck _)
  | ended result =>
      have hreleased : chain.Released := by
        rw [← Chain.dropWriter?_eq_none_iff]
        rcases hdrop : chain.dropWriter? with _ | after
        · rfl
        · exact absurd (.leave hdrop) (hstuck _)
      exact ⟨⟨result, rfl⟩, hreleased, hreleased.finished hidle⟩

/-- While the head or a filter has not come to its end, one of them can take a
step, whatever the programs are and whatever the steps so far were; so it never
happens that all who are left wait for relays that are full or empty. A head
that breaks down is one that stops with a failure. -/
theorem exists_step {ps : List Program} {target : τ} {head : Head α}
    (run : Run (start ps target head) n) (hn : ¬ n.Finished) :
    (∃ m, Step n m) ∧ ¬ n.Stalled := by
  have hcoupled := run.coupled (coupled_start ps target head)
  have hstep : ∃ m, Step n m := by
    apply Classical.byContradiction
    intro hnone
    exact hn (hcoupled.finished_of_not_step fun m hm => hnone ⟨m, hm⟩)
  obtain ⟨m, hm⟩ := hstep
  exact ⟨⟨m, hm⟩, fun hstalled => hcoupled.not_step_of_stalled hstalled hm⟩

/-- A head that has to wait for the first of two filters. -/
theorem exists_step_full_relay :
    let head : Head Unit := .emit [1] (.emit [2] (.stop ⟨(), none⟩))
    ∃ n : Network Unit Collector, Run (start [.copy, .copy] .empty head) n ∧
      (n.head = .working (.emit [2] (.stop ⟨(), none⟩)) ∧ n.chain.Full) ∧ ¬ n.Finished ∧
      (∃ m, Step n m) ∧ ¬ n.Stalled := by
  intro head
  let relay : Relay := ⟨⟨1, [[1]], true, true⟩, [], 0⟩
  let n : Network Unit Collector :=
    ⟨.working (.emit [2] (.stop ⟨(), none⟩)),
      .stage .copy relay (.working (.ask ())) (.start .empty [.copy])⟩
  have run : Run (start [.copy, .copy] .empty head) n := .single (.write rfl)
  have hn : ¬ n.Finished := by
    rintro ⟨⟨result, hhead⟩, -, -⟩
    cases hhead
  exact ⟨n, run, ⟨rfl, rfl, Nat.le_refl 1⟩, hn, exists_step run hn⟩

end Network

end MenuLine
