import MenuLine.Unicode.GraphemeBreak

/-!
# Corrected lines

A backspace in a line takes back what was typed before it, a whole cluster at
a time. A line without any stays as it is.
-/

namespace MenuLine

namespace Correction

def backspace : Char := '\x08'

/-- What has been kept of a line, the last character first, and how many bytes
the next backspaces take back. -/
structure Kept where
  backward : Text
  sizes : List Nat
deriving DecidableEq, Repr

namespace Kept

def empty : Kept := ⟨[], []⟩

/-- Takes back the last `count` bytes. -/
def takeBack : (count : Nat) → Text → Text
  | _, [] => []
  | count, c :: rest => if c.utf8Size ≤ count then takeBack (count - c.utf8Size) rest else c :: rest

/-- Backspaces at the start of a line have no effect. -/
def erase (k : Kept) : Kept :=
  match k.sizes with
  | [] => k
  | size :: sizes => ⟨takeBack size k.backward, sizes⟩

/-- The size of a cluster is kept in one byte. -/
def add (k : Kept) (cluster : Text) : Kept :=
  ⟨cluster.reverse ++ k.backward, cluster.bytes.length % UInt8.size :: k.sizes⟩

def hear (k : Kept) (cluster : Text) : Kept :=
  if cluster = [backspace] then k.erase else k.add cluster

def text (k : Kept) : Text := k.backward.reverse

@[simp] theorem text_empty : empty.text = [] := rfl

@[simp] theorem text_add (k : Kept) (cluster : Text) :
    (k.add cluster).text = k.text ++ cluster := by
  simp [text, add]

theorem text_foldl_hear {clusters : List Text} (h : [backspace] ∉ clusters) (k : Kept) :
    (clusters.foldl hear k).text = k.text ++ clusters.flatten := by
  induction clusters generalizing k with
  | nil => simp
  | cons cluster clusters ih =>
    simp only [List.mem_cons, not_or] at h
    rw [List.foldl_cons, ih h.2, hear, if_neg (Ne.symm h.1), text_add, List.flatten_cons,
      List.append_assoc]

end Kept

/-- What is left of a line when all its clusters have been typed. -/
def typed (line : Text) : Text := ((Unicode.clusters line).foldl Kept.hear .empty).text

theorem typed_of_not_mem {line : Text} (h : backspace ∉ line) : typed line = line := by
  have hc : [backspace] ∉ Unicode.clusters line := by
    intro hm
    refine h ?_
    rw [← Unicode.flatten_clusters line]
    exact List.mem_flatten.2 ⟨_, hm, List.mem_singleton_self _⟩
  rw [typed, Kept.text_foldl_hear hc, Unicode.flatten_clusters]
  rfl

/-- The line that is meant. Clusters matter only if there is a backspace. -/
def correct (line : Text) : Text := if line.contains backspace then typed line else line

theorem correct_eq_typed (line : Text) : correct line = typed line := by
  unfold correct
  split
  · rfl
  · next h => exact (typed_of_not_mem (by simpa using h)).symm

end Correction

end MenuLine
