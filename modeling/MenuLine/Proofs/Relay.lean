import MenuLine.Stream.Relay

/-!
# What a relay carries

Whatever the two ends of a relay do, and in whatever order, the reader gets
what was accepted from the writer, in order and once. `Relay.Run` is any
course of events on a new relay; the main statement `Relay.run_accounting`
says where every accepted byte is after it.
-/

namespace MenuLine

namespace Relay

/-! ## One operation at a time -/

/-- What no operation on a relay breaks. -/
structure Sound (r : Relay) : Prop where
  capacity : r.channel.capacity = 1
  room : r.channel.items.length ≤ 1
  nonempty : ∀ chunk ∈ r.channel.items, chunk ≠ []
  position_le : r.position ≤ r.chunk.length

theorem sound_start : start.Sound := ⟨rfl, by simp [start, Channel.bounded],
  by simp [start, Channel.bounded], by simp [start]⟩

theorem Sound.dropWriter {r : Relay} (h : r.Sound) : r.dropWriter.Sound :=
  ⟨h.capacity, h.room, h.nonempty, h.position_le⟩

theorem Sound.dropReader {r : Relay} (h : r.Sound) : r.dropReader.Sound :=
  ⟨h.capacity, h.room, h.nonempty, h.position_le⟩

def enqueue (r : Relay) (chunk : Bytes) : Relay :=
  { r with channel := { r.channel with items := r.channel.items ++ [chunk] } }

@[simp] theorem pending_enqueue (r : Relay) (chunk : Bytes) :
    (r.enqueue chunk).pending = r.pending ++ chunk := by
  simp [pending, queued, enqueue, unread]

@[simp] theorem writerOpen_enqueue (r : Relay) (chunk : Bytes) :
    (r.enqueue chunk).writerOpen = r.writerOpen := rfl

@[simp] theorem readerOpen_enqueue (r : Relay) (chunk : Bytes) :
    (r.enqueue chunk).readerOpen = r.readerOpen := rfl

/-- The three things that a write can come to. -/
theorem write?_cases {r s : Relay} {chunk : Bytes} {result : Except IoError Nat}
    (h : r.write? chunk = some (result, s)) :
    (chunk = [] ∧ result = .ok 0 ∧ s = r) ∨
    (chunk ≠ [] ∧ r.readerOpen = false ∧ result = .error .relayClosed ∧ s = r) ∨
    (chunk ≠ [] ∧ r.readerOpen = true ∧ r.channel.items.length < r.channel.capacity ∧
      result = .ok chunk.length ∧ s = r.enqueue chunk) := by
  unfold write? at h
  split at h
  · cases h
  · split at h
    · next hchunk =>
        cases h
        exact .inl ⟨hchunk, rfl, rfl⟩
    · next hchunk =>
        split at h
        · cases h
        · next hsend =>
            cases h
            exact .inr (.inl ⟨hchunk, Channel.send?_eq_some_none_iff.1 hsend, rfl, rfl⟩)
        · next channel hsend =>
            cases h
            obtain ⟨hopen, hroom, rfl⟩ := Channel.send?_eq_some_some_iff.1 hsend
            exact .inr (.inr ⟨hchunk, hopen, hroom, rfl, rfl⟩)

theorem write?_ends {r s : Relay} {chunk : Bytes} {result : Except IoError Nat}
    (h : r.write? chunk = some (result, s)) :
    s.writerOpen = r.writerOpen ∧ s.readerOpen = r.readerOpen := by
  obtain ⟨-, -, rfl⟩ | ⟨-, -, -, rfl⟩ | ⟨-, -, -, -, rfl⟩ := write?_cases h
  · exact ⟨rfl, rfl⟩
  · exact ⟨rfl, rfl⟩
  · exact ⟨rfl, rfl⟩

theorem write?_of_reader_gone {r : Relay} {chunk : Bytes} (hr : r.readerOpen = false)
    (hw : r.writerOpen = true) (hchunk : chunk ≠ []) :
    r.write? chunk = some (.error .relayClosed, r) := by
  have hsend : r.channel.send? chunk = some none := Channel.send?_eq_some_none_iff.2 hr
  simp [write?, hw, hchunk, hsend]

theorem Sound.write {r s : Relay} {chunk : Bytes} {result : Except IoError Nat}
    (hs : r.Sound) (h : r.write? chunk = some (result, s)) : s.Sound := by
  obtain ⟨-, -, rfl⟩ | ⟨-, -, -, rfl⟩ | ⟨hchunk, -, hroom, -, rfl⟩ := write?_cases h
  · exact hs
  · exact hs
  · have hempty : r.channel.items = [] := by
      rw [hs.capacity] at hroom
      exact List.length_eq_zero_iff.1 (Nat.lt_one_iff.1 hroom)
    refine ⟨hs.capacity, ?_, ?_, hs.position_le⟩
    · simp [enqueue, hempty]
    · simpa [enqueue, hempty] using hchunk

/-- A relay before and after its reader has taken what it needs. -/
structure Refilled (r s : Relay) : Prop where
  pending : s.pending = r.pending
  writerOpen : s.writerOpen = r.writerOpen
  readerOpen : s.readerOpen = r.readerOpen
  capacity : s.channel.capacity = r.channel.capacity
  items : s.channel.items <:+ r.channel.items
  position_le : r.position ≤ r.chunk.length → s.position ≤ s.chunk.length
  /-- There is something to read, or the end of the stream has come. -/
  ready : s.unread ≠ [] ∨ s.pending = [] ∧ s.writerOpen = false

theorem refill?_refilled {r s : Relay} (h : r.refill? = some s) : r.Refilled s := by
  fun_induction refill? r with
  | case1 r hlt =>
      cases h
      refine ⟨rfl, rfl, rfl, rfl, List.suffix_rfl, id, .inl ?_⟩
      rw [Ne, unread_eq_nil_iff]
      omega
  | case2 => cases h
  | case3 r hlt hreceive =>
      obtain ⟨hitems, hclosed⟩ := Channel.receive?_eq_some_none_iff.1 hreceive
      have hunread : r.unread = [] := unread_eq_nil_iff.2 (Nat.not_lt.1 hlt)
      cases h
      refine ⟨rfl, rfl, rfl, rfl, List.suffix_rfl, id, .inr ⟨?_, hclosed⟩⟩
      simp [Relay.pending, queued, hitems, hunread]
  | case4 r hlt chunk channel hreceive ih =>
      obtain ⟨hitems, hchannel⟩ := Channel.receive?_eq_some_some_iff.1 hreceive
      have hunread : r.unread = [] := unread_eq_nil_iff.2 (Nat.not_lt.1 hlt)
      have later := ih h
      refine ⟨later.pending.trans ?_, later.writerOpen.trans ?_, later.readerOpen.trans ?_,
        later.capacity.trans ?_, ?_, fun _ => later.position_le (Nat.zero_le _), later.ready⟩
      · rw [Relay.pending, Relay.pending, hunread, queued, queued, hitems]
        simp [unread]
      · rw [hchannel]
        rfl
      · rw [hchannel]
        rfl
      · rw [hchannel]
      · rw [hitems]
        exact later.items.trans (List.suffix_cons _ _)

theorem takeUnread_append_pending (r : Relay) (size : Nat) :
    (r.takeUnread size).1 ++ (r.takeUnread size).2.pending = r.pending := by
  simp only [takeUnread, pending, queued, unread]
  rw [← List.append_assoc, ← List.drop_drop, List.take_append_drop]

theorem takeUnread_eq_nil {r : Relay} {size : Nat} (hsize : 0 < size)
    (h : (r.takeUnread size).1 = []) : r.unread = [] := by
  rw [unread_eq_nil_iff]
  have hlen := congrArg List.length h
  simp only [takeUnread, unread, List.length_take, List.length_drop, List.length_nil] at hlen
  omega

theorem read?_cases {r s : Relay} {size : Nat} {found : Bytes}
    (h : r.read? size = some (found, s)) :
    r.readerOpen = true ∧
      ((size = 0 ∧ found = [] ∧ s = r) ∨
        (0 < size ∧ ∃ q, r.Refilled q ∧ q.takeUnread size = (found, s))) := by
  unfold read? at h
  split at h
  · cases h
  · next hopen =>
      refine ⟨by simpa using hopen, ?_⟩
      split at h
      · next hsize =>
          cases h
          exact .inl ⟨hsize, rfl, rfl⟩
      · next hsize =>
          obtain ⟨q, hq, htake⟩ := Option.map_eq_some_iff.1 h
          exact .inr ⟨Nat.pos_of_ne_zero hsize, q, refill?_refilled hq, htake⟩

/-- A read loses nothing and adds nothing. -/
theorem read_append_pending {r s : Relay} {size : Nat} {found : Bytes}
    (h : r.read? size = some (found, s)) : found ++ s.pending = r.pending := by
  obtain ⟨-, ⟨-, rfl, rfl⟩ | ⟨-, q, hq, htake⟩⟩ := read?_cases h
  · rfl
  · have hkept := takeUnread_append_pending q size
    rw [htake] at hkept
    exact hkept.trans hq.pending

/-- Nothing is read only where there is nothing and the writer is gone. -/
theorem read_nil {r s : Relay} {size : Nat} (hsize : 0 < size)
    (h : r.read? size = some ([], s)) : r.writerOpen = false ∧ r.pending = [] := by
  obtain ⟨-, ⟨hzero, -, -⟩ | ⟨-, q, hq, htake⟩⟩ := read?_cases h
  · omega
  · have hunread : q.unread = [] := takeUnread_eq_nil hsize (by rw [htake])
    rcases hq.ready with hne | ⟨hpending, hclosed⟩
    · exact absurd hunread hne
    · exact ⟨hq.writerOpen ▸ hclosed, hq.pending ▸ hpending⟩

theorem read?_ends {r s : Relay} {size : Nat} {found : Bytes}
    (h : r.read? size = some (found, s)) :
    s.writerOpen = r.writerOpen ∧ s.readerOpen = r.readerOpen := by
  obtain ⟨-, ⟨-, -, rfl⟩ | ⟨-, q, hq, htake⟩⟩ := read?_cases h
  · exact ⟨rfl, rfl⟩
  · cases htake
    exact ⟨hq.writerOpen, hq.readerOpen⟩

theorem read?_items {r s : Relay} {size : Nat} {found : Bytes}
    (h : r.read? size = some (found, s)) : s.channel.items <:+ r.channel.items := by
  obtain ⟨-, ⟨-, -, rfl⟩ | ⟨-, q, hq, htake⟩⟩ := read?_cases h
  · exact List.suffix_rfl
  · cases htake
    exact hq.items

theorem Sound.read {r s : Relay} {size : Nat} {found : Bytes} (hs : r.Sound)
    (h : r.read? size = some (found, s)) : s.Sound := by
  have hitems := read?_items h
  obtain ⟨-, ⟨-, -, rfl⟩ | ⟨-, q, hq, htake⟩⟩ := read?_cases h
  · exact hs
  · cases htake
    refine ⟨hq.capacity.trans hs.capacity, Nat.le_trans hitems.length_le hs.room,
      fun chunk hc => hs.nonempty chunk (hitems.subset hc), ?_⟩
    have hq' := hq.position_le hs.position_le
    dsimp only
    omega

/-! ## A relay with nothing on its way -/

structure Idle (r : Relay) : Prop where
  capacity : r.channel.capacity = 1
  items : r.channel.items = []
  used_up : r.chunk.length ≤ r.position

theorem idle_start : start.Idle := ⟨rfl, rfl, Nat.le_refl 0⟩

theorem Idle.dropWriter {r : Relay} (h : r.Idle) : r.dropWriter.Idle :=
  ⟨h.capacity, h.items, h.used_up⟩

theorem Idle.write? {r : Relay} (h : r.Idle) (hw : r.writerOpen = true)
    (hr : r.readerOpen = true) {chunk : Bytes} (hchunk : chunk ≠ []) :
    r.write? chunk = some (.ok chunk.length, r.enqueue chunk) := by
  have hsend : r.channel.send? chunk = some (some (r.enqueue chunk).channel) :=
    Channel.send?_eq_some_some_iff.2 ⟨hr, by simp [h.items, h.capacity], rfl⟩
  rw [Relay.write?, hw, hsend]
  simp [hchunk, enqueue]

theorem Idle.read? {r : Relay} (h : r.Idle) (hr : r.readerOpen = true) {chunk : Bytes}
    (hchunk : chunk ≠ []) :
    ∃ s, (r.enqueue chunk).read? chunk.length = some (chunk, s) ∧ s.Idle ∧
      s.writerOpen = r.writerOpen ∧ s.readerOpen = true := by
  have hpos : 0 < chunk.length := List.length_pos_iff.2 hchunk
  have hreceive : (r.enqueue chunk).channel.receive? = some (some (chunk, r.channel)) := by
    refine Channel.receive?_eq_some_some_iff.2 ⟨by simp [enqueue, h.items], ?_⟩
    simp only [enqueue]
  have hused : ¬ (r.enqueue chunk).position < (r.enqueue chunk).chunk.length :=
    Nat.not_lt.2 h.used_up
  have hrefill : (r.enqueue chunk).refill? = some ⟨r.channel, chunk, 0⟩ := by
    rw [refill?, if_neg hused, hreceive]
    exact (refill?.eq_1 _).trans (if_pos hpos)
  refine ⟨⟨r.channel, chunk, chunk.length⟩, ?_, ⟨h.capacity, h.items, Nat.le_refl _⟩, rfl, hr⟩
  rw [Relay.read?, readerOpen_enqueue, hr, hrefill]
  simp [hchunk, takeUnread, unread]

theorem Idle.read?_end {r : Relay} (h : r.Idle) (hw : r.writerOpen = false)
    (hr : r.readerOpen = true) : r.read? 1 = some ([], r) := by
  have hreceive : r.channel.receive? = some none :=
    Channel.receive?_eq_some_none_iff.2 ⟨h.items, hw⟩
  have hrefill : r.refill? = some r := by
    rw [refill?, if_neg (Nat.not_lt.2 h.used_up), hreceive]
  have hunread : r.unread = [] := unread_eq_nil_iff.2 h.used_up
  have hleft : r.chunk.length - r.position = 0 := Nat.sub_eq_zero_of_le h.used_up
  rw [Relay.read?, hr, hrefill]
  simp [takeUnread, hunread, hleft]

/-! ## Any course of events -/

/-- What an end of a relay has done, and what came of it. -/
inductive Event where
  | wrote (chunk : Bytes) (result : Except IoError Nat)
  | read (size : Nat) (found : Bytes)
  | droppedWriter
  | droppedReader

namespace Event

def accepted : Event → Bytes
  | wrote chunk (.ok n) => chunk.take n
  | _ => []

def returned : Event → Bytes
  | read _ found => found
  | _ => []

end Event

def accepted (es : List Event) : Bytes := es.flatMap Event.accepted

def returned (es : List Event) : Bytes := es.flatMap Event.returned

/-- What each write had accepted, empty writes apart. -/
def acceptedWrites (es : List Event) : List Bytes :=
  (es.map Event.accepted).filter fun chunk => chunk ≠ []

@[simp] theorem accepted_concat (es : List Event) (e : Event) :
    accepted (es ++ [e]) = accepted es ++ e.accepted := by
  simp [accepted]

@[simp] theorem returned_concat (es : List Event) (e : Event) :
    returned (es ++ [e]) = returned es ++ e.returned := by
  simp [returned]

theorem acceptedWrites_concat_nil (es : List Event) {e : Event} (h : e.accepted = []) :
    acceptedWrites (es ++ [e]) = acceptedWrites es := by
  simp [acceptedWrites, h]

theorem acceptedWrites_concat (es : List Event) {e : Event} (h : e.accepted ≠ []) :
    acceptedWrites (es ++ [e]) = acceptedWrites es ++ [e.accepted] := by
  simp [acceptedWrites, h]

/-- One event on a relay; an end that is gone does nothing more, and an end
that has to wait does nothing yet. -/
inductive Step : Relay → Event → Relay → Prop where
  | write {r s : Relay} {chunk : Bytes} {result : Except IoError Nat}
      (h : r.write? chunk = some (result, s)) : Step r (.wrote chunk result) s
  | read {r s : Relay} {size : Nat} {found : Bytes}
      (h : r.read? size = some (found, s)) : Step r (.read size found) s
  | dropWriter {r : Relay} (h : r.writerOpen = true) : Step r .droppedWriter r.dropWriter
  | dropReader {r : Relay} (h : r.readerOpen = true) : Step r .droppedReader r.dropReader

inductive Run (r : Relay) : List Event → Relay → Prop where
  | nil : Run r [] r
  | concat {es : List Event} {s t : Relay} {e : Event} :
      Run r es s → Step s e t → Run r (es ++ [e]) t

structure Account (es : List Event) (r : Relay) : Prop where
  sound : r.Sound
  kept : returned es ++ r.pending = accepted es
  queued : r.channel.items <:+ acceptedWrites es
  writer : .droppedWriter ∈ es ↔ r.writerOpen = false
  reader : .droppedReader ∈ es ↔ r.readerOpen = false

theorem account_start : Account [] start :=
  ⟨sound_start, rfl, List.suffix_rfl, by simp, by simp⟩

theorem Account.write {es : List Event} {r s : Relay} {chunk : Bytes}
    {result : Except IoError Nat} (ha : Account es r) (h : r.write? chunk = some (result, s)) :
    Account (es ++ [.wrote chunk result]) s := by
  have hsound := ha.sound.write h
  obtain ⟨rfl, rfl, rfl⟩ | ⟨hchunk, -, rfl, rfl⟩ | ⟨hchunk, -, hroom, rfl, rfl⟩ := write?_cases h
  · refine ⟨hsound, by simpa [Event.accepted, Event.returned] using ha.kept, ?_,
      by simpa using ha.writer, by simpa using ha.reader⟩
    rw [acceptedWrites_concat_nil es (by simp [Event.accepted])]
    exact ha.queued
  · refine ⟨hsound, by simpa [Event.accepted, Event.returned] using ha.kept, ?_,
      by simpa using ha.writer, by simpa using ha.reader⟩
    rw [acceptedWrites_concat_nil es rfl]
    exact ha.queued
  · have haccepted : (Event.wrote chunk (.ok chunk.length)).accepted = chunk :=
      List.take_length
    refine ⟨hsound, ?_, ?_, by simpa using ha.writer, by simpa using ha.reader⟩
    · rw [accepted_concat, returned_concat, haccepted, pending_enqueue, ← ha.kept]
      simp [Event.returned]
    · rw [acceptedWrites_concat es (by rwa [haccepted]), haccepted]
      obtain ⟨taken, htaken⟩ := ha.queued
      exact ⟨taken, by simp [← htaken, enqueue]⟩

theorem Account.read {es : List Event} {r s : Relay} {size : Nat} {found : Bytes}
    (ha : Account es r) (h : r.read? size = some (found, s)) :
    Account (es ++ [.read size found]) s := by
  obtain ⟨hwriter, hreader⟩ := read?_ends h
  refine ⟨ha.sound.read h, ?_, ?_, by simpa [hwriter] using ha.writer,
    by simpa [hreader] using ha.reader⟩
  · have hkept := ha.kept
    rw [← read_append_pending h] at hkept
    simpa [Event.accepted, Event.returned] using hkept
  · rw [acceptedWrites_concat_nil es rfl]
    exact (read?_items h).trans ha.queued

theorem Account.dropWriter {es : List Event} {r : Relay} (ha : Account es r) :
    Account (es ++ [.droppedWriter]) r.dropWriter := by
  refine ⟨ha.sound.dropWriter, by simpa [Event.accepted, Event.returned] using ha.kept, ?_,
    by simp, by simpa using ha.reader⟩
  rw [acceptedWrites_concat_nil es rfl]
  exact ha.queued

theorem Account.dropReader {es : List Event} {r : Relay} (ha : Account es r) :
    Account (es ++ [.droppedReader]) r.dropReader := by
  refine ⟨ha.sound.dropReader, by simpa [Event.accepted, Event.returned] using ha.kept, ?_,
    by simpa using ha.writer, by simp⟩
  rw [acceptedWrites_concat_nil es rfl]
  exact ha.queued

theorem Account.step {es : List Event} {r s : Relay} {e : Event} (ha : Account es r)
    (h : Step r e s) : Account (es ++ [e]) s := by
  cases h with
  | write h => exact ha.write h
  | read h => exact ha.read h
  | dropWriter _ => exact ha.dropWriter
  | dropReader _ => exact ha.dropReader

theorem Run.account {es : List Event} {r : Relay} (run : Run start es r) : Account es r := by
  induction run with
  | nil => exact account_start
  | concat _ hstep ih => exact ih.step hstep

/-- After any course of events: as long as the reader is there, what it was
given, the rest of its chunk and what waits for it are what was accepted, in
order; at most one accepted write waits; only the end of everything reads as
nothing; and once the reader is gone every write that is not empty fails with
a broken pipe and leaves the relay as it is. -/
theorem run_accounting {es : List Event} {r : Relay} (run : Run start es r) :
    (.droppedReader ∉ es → returned es ++ r.unread ++ r.queued = accepted es) ∧
    (r.channel.items.length ≤ 1 ∧ r.channel.items <:+ acceptedWrites es) ∧
    (∀ size s, 0 < size → r.read? size = some ([], s) →
      .droppedWriter ∈ es ∧ returned es = accepted es) ∧
    (.droppedReader ∈ es → .droppedWriter ∉ es → ∀ chunk, chunk ≠ [] →
      ∃ e, e.isBrokenPipe = true ∧ r.write? chunk = some (.error e, r)) := by
  have ha := run.account
  refine ⟨fun _ => ?_, ⟨ha.sound.room, ha.queued⟩, ?_, ?_⟩
  · rw [List.append_assoc]
    exact ha.kept
  · intro size s hsize hread
    obtain ⟨hclosed, hpending⟩ := read_nil hsize hread
    refine ⟨ha.writer.2 hclosed, ?_⟩
    have hkept := ha.kept
    rwa [hpending, List.append_nil] at hkept
  · intro hreader hwriter chunk hchunk
    have hgone := ha.reader.1 hreader
    have hthere : r.writerOpen = true := by
      rw [← Bool.not_eq_false]
      exact fun hclosed => hwriter (ha.writer.2 hclosed)
    exact ⟨.relayClosed, rfl, write?_of_reader_gone hgone hthere hchunk⟩

/-- A reader that hands on a chunk in two pieces meets the end after both
chunks; a writer that is left alone is told. -/
theorem run_accounting_two_chunks :
    (∃ r s, Run start [.wrote [] (.ok 0), .wrote [1, 2, 3] (.ok 3), .read 2 [1, 2],
        .wrote [4] (.ok 1), .droppedWriter, .read 5 [3], .read 5 [4]] r ∧
      r.read? 5 = some ([], s) ∧ [1, 2, 3, 4] ++ r.unread ++ r.queued = [1, 2, 3, 4]) ∧
    ∃ r e, Run start [.wrote [1, 2] (.ok 2), .droppedReader] r ∧
      r.write? [3] = some (.error e, r) ∧ e.isBrokenPipe = true := by
  have read : Run start [.wrote [] (.ok 0), .wrote [1, 2, 3] (.ok 3), .read 2 [1, 2],
      .wrote [4] (.ok 1), .droppedWriter, .read 5 [3], .read 5 [4]]
      ⟨⟨1, [], false, true⟩, [4], 1⟩ :=
    Run.nil |>.concat (.write (s := start) rfl)
      |>.concat (.write (s := ⟨⟨1, [[1, 2, 3]], true, true⟩, [], 0⟩) rfl)
      |>.concat (.read (s := ⟨⟨1, [], true, true⟩, [1, 2, 3], 2⟩) (by cbv))
      |>.concat (.write (s := ⟨⟨1, [[4]], true, true⟩, [1, 2, 3], 2⟩) rfl)
      |>.concat (.dropWriter rfl)
      |>.concat (.read (s := ⟨⟨1, [[4]], false, true⟩, [1, 2, 3], 3⟩) (by cbv))
      |>.concat (.read (s := ⟨⟨1, [], false, true⟩, [4], 1⟩) (by cbv))
  have left : Run start [.wrote [1, 2] (.ok 2), .droppedReader]
      ⟨⟨1, [[1, 2]], true, false⟩, [], 0⟩ :=
    Run.nil |>.concat (.write (s := ⟨⟨1, [[1, 2]], true, true⟩, [], 0⟩) rfl)
      |>.concat (.dropReader rfl)
  refine ⟨⟨_, ⟨⟨1, [], false, true⟩, [4], 1⟩, read, by cbv, (run_accounting read).1 (by simp)⟩, ?_⟩
  obtain ⟨e, he, hwrite⟩ := (run_accounting left).2.2.2 (by simp) (by simp) [3] (by simp)
  exact ⟨_, e, left, hwrite, he⟩

end Relay

end MenuLine
