import MenuLine.Stream.IoError

/-!
# Sinks

Where output goes: a writer is told of each failure and may go on. A
collector accepts everything and remembers it.
-/

namespace MenuLine

class Sink (τ : Type) where
  write : τ → Bytes → Option IoError × τ
  flush : τ → Option IoError × τ

namespace Sink

def writeText [Sink τ] (sink : τ) (text : Text) : Option IoError × τ := write sink text.bytes

def writeLine [Sink τ] (sink : τ) (line : Text) : Option IoError × τ :=
  writeText sink (line ++ ['\n'])

/-- All writes are accepted, and what has been written can be seen. -/
structure Accepting [Sink τ] (seen : τ → Bytes) : Prop where
  write_fst : ∀ (sink : τ) (chunk : Bytes), (write sink chunk).1 = none
  seen_write : ∀ (sink : τ) (chunk : Bytes), seen (write sink chunk).2 = seen sink ++ chunk
  seen_flush : ∀ sink : τ, seen (flush sink).2 = seen sink

end Sink

/-- The chunks that were written, the last one first. -/
structure Collector where
  chunks : List Bytes
deriving DecidableEq, Repr

namespace Collector

def empty : Collector := ⟨[]⟩

def add (c : Collector) (chunk : Bytes) : Collector := ⟨chunk :: c.chunks⟩

def bytes (c : Collector) : Bytes := c.chunks.reverse.flatten

@[simp] theorem bytes_empty : empty.bytes = [] := rfl

@[simp] theorem bytes_add (c : Collector) (chunk : Bytes) :
    (c.add chunk).bytes = c.bytes ++ chunk := by
  simp [bytes, add]

instance : Sink Collector where
  write c chunk := (none, c.add chunk)
  flush c := (none, c)

@[simp] theorem write_eq (c : Collector) (chunk : Bytes) :
    Sink.write c chunk = (none, c.add chunk) := rfl

@[simp] theorem flush_eq (c : Collector) : Sink.flush c = (none, c) := rfl

theorem accepting : Sink.Accepting bytes where
  write_fst _ _ := rfl
  seen_write := bytes_add
  seen_flush _ := rfl

end Collector

end MenuLine
