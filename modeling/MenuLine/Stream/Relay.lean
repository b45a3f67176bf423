import MenuLine.Stream.Channel
import MenuLine.Stream.IoError

/-!
# Relays

A relay joins a writer to a reader through a channel with room for one chunk.
The reader takes a chunk as a whole and hands it on piece by piece. Either
end may go away: a reader then finds the end of the stream once everything
has been read, and a writer fails.
-/

namespace MenuLine

structure Relay where
  channel : Channel Bytes
  /-- The chunk that the reader has taken last. -/
  chunk : Bytes
  /-- How much of it has been handed on. -/
  position : Nat
deriving DecidableEq, Repr

namespace Relay

def start : Relay := ⟨.bounded 1, [], 0⟩

def writerOpen (r : Relay) : Bool := r.channel.senderOpen

def readerOpen (r : Relay) : Bool := r.channel.receiverOpen

/-- What is left of the chunk that the reader has taken. -/
def unread (r : Relay) : Bytes := r.chunk.drop r.position

/-- What waits for the reader. -/
def queued (r : Relay) : Bytes := r.channel.items.flatten

/-- All bytes that have been written and not been read, in order. -/
def pending (r : Relay) : Bytes := r.unread ++ r.queued

@[simp] theorem pending_start : start.pending = [] := rfl

@[simp] theorem writerOpen_start : start.writerOpen = true := rfl

@[simp] theorem readerOpen_start : start.readerOpen = true := rfl

/-- Writes a chunk; gives `none` where a writer has to wait or is gone. An
empty chunk goes nowhere and is always accepted. -/
def write? (r : Relay) (chunk : Bytes) : Option (Except IoError Nat × Relay) :=
  if !r.writerOpen then none
  else if chunk = [] then some (.ok 0, r)
  else match r.channel.send? chunk with
    | none => none
    | some none => some (.error .relayClosed, r)
    | some (some channel) => some (.ok chunk.length, { r with channel := channel })

/-- The relay after the reader has taken chunks until one has something left
to read, or until nothing will ever come. Gives `none` where the reader has
to wait. -/
def refill? (r : Relay) : Option Relay :=
  if r.position < r.chunk.length then some r
  else match _h : r.channel.receive? with
    | none => none
    | some none => some r
    | some (some (chunk, channel)) => refill? ⟨channel, chunk, 0⟩
termination_by r.channel.items.length
decreasing_by
  have hitems := (Channel.receive?_eq_some_some_iff.1 _h).1
  simp [hitems]

/-- Hands on at most `size` bytes of the chunk that the reader has taken. -/
def takeUnread (r : Relay) (size : Nat) : Bytes × Relay :=
  let n := min size (r.chunk.length - r.position)
  (r.unread.take n, { r with position := r.position + n })

/-- Reads at most `size` bytes; gives `none` where a reader has to wait or is
gone. -/
def read? (r : Relay) (size : Nat) : Option (Bytes × Relay) :=
  if !r.readerOpen then none
  else if size = 0 then some ([], r)
  else r.refill?.map fun r => r.takeUnread size

def dropWriter (r : Relay) : Relay := { r with channel := r.channel.dropSender }

def dropReader (r : Relay) : Relay := { r with channel := r.channel.dropReceiver }

@[simp] theorem pending_dropWriter (r : Relay) : r.dropWriter.pending = r.pending := rfl

@[simp] theorem pending_dropReader (r : Relay) : r.dropReader.pending = r.pending := rfl

@[simp] theorem writerOpen_dropWriter (r : Relay) : r.dropWriter.writerOpen = false := rfl

@[simp] theorem readerOpen_dropWriter (r : Relay) : r.dropWriter.readerOpen = r.readerOpen := rfl

@[simp] theorem writerOpen_dropReader (r : Relay) : r.dropReader.writerOpen = r.writerOpen := rfl

@[simp] theorem readerOpen_dropReader (r : Relay) : r.dropReader.readerOpen = false := rfl

theorem unread_eq_nil_iff {r : Relay} : r.unread = [] ↔ r.chunk.length ≤ r.position :=
  List.drop_eq_nil_iff

end Relay

end MenuLine
