import MenuLine.Files.Tree

/-!
# The history of a session

The texts of the statements that ran, the oldest first and at most so many. A
text that equals the one before it is not kept twice. In a file each text is
a line behind a first line that names the format, with backslashes doubled
and newlines written as `\n`.
-/

namespace MenuLine

structure History where
  limit : Nat
  entries : List Text
  /-- How many of the last entries have not come from a complete file. -/
  fresh : Nat
deriving DecidableEq, Repr

namespace History

def empty (limit : Nat) : History := ⟨limit, [], 0⟩

/-- Whether an entry is passed over. -/
def ignores (h : History) (entry : Text) : Bool :=
  h.limit = 0 || entry.isEmpty || h.entries.getLast? = some entry

/-- The oldest entry makes room for a new one. -/
def add (h : History) (entry : Text) : History :=
  if h.ignores entry then h
  else
    let kept := if h.entries.length = h.limit then h.entries.drop 1 else h.entries
    { h with entries := kept ++ [entry], fresh := min (h.fresh + 1) (kept.length + 1) }

/-- A history that keeps to its limit goes on doing so. -/
theorem length_entries_add {h : History} (entry : Text) (hle : h.entries.length ≤ h.limit) :
    (h.add entry).entries.length ≤ (h.add entry).limit := by
  unfold add
  split
  · exact hle
  · next hi =>
    have hpos : h.limit ≠ 0 := by
      intro h0
      simp [ignores, h0] at hi
    dsimp only
    split
    · next he =>
      simp only [List.length_append, List.length_drop, List.length_singleton]
      omega
    · next he =>
      simp only [List.length_append, List.length_singleton]
      omega

def addAll (h : History) (entries : List Text) : History := entries.foldl add h

def format : Text := ['#', 'V', '2']

def escape : Text → Text
  | [] => []
  | c :: r =>
    if c = '\\' then '\\' :: '\\' :: escape r
    else if c = '\n' then '\\' :: 'n' :: escape r
    else c :: escape r

/-- Gives nothing where a backslash stands before anything else than a
backslash or `n`. -/
def unescape? : Text → Option Text
  | [] => some []
  | '\\' :: '\\' :: r => (unescape? r).map ('\\' :: ·)
  | '\\' :: 'n' :: r => (unescape? r).map ('\n' :: ·)
  | c :: r => if c = '\\' then none else (unescape? r).map (c :: ·)

theorem unescape?_escape (t : Text) : unescape? (escape t) = some t := by
  induction t with
  | nil => rfl
  | cons c r ih =>
    unfold escape
    split
    · next h => simp [unescape?, ih, h]
    · split
      · next h => simp [unescape?, ih, h]
      · next h _ => simp [unescape?, ih, h]

/-- A line with a wrong escape stands for itself. -/
def entryOf (line : Text) : Text := (unescape? line).getD line

def toText (h : History) : Text :=
  (format :: h.entries.map escape).flatMap (· ++ ['\n'])

/-- The leading lines that are text, and whether these are all lines. -/
def readable : List Bytes → List Text × Bool
  | [] => ([], true)
  | line :: lines =>
    match Text.ofBytes? line with
    | none => ([], false)
    | some text => ((text :: (readable lines).1), (readable lines).2)

/-- The entries that lines of a file stand for. Without the line that names
the format nothing is escaped. -/
def entriesOf : List Text → List Text
  | [] => []
  | first :: lines => if first = format then lines.map entryOf else first :: lines

/-- The history in a file. Entries from a file that can be read to its end
need not be written again. -/
def ofBytes (limit : Nat) (content : Bytes) : History :=
  let (lines, complete) := readable content.lines
  let h := (empty limit).addAll (entriesOf lines)
  if complete then { h with fresh := 0 } else h

/-- A file that cannot be read holds no history. -/
def load (files : FileTree) (limit : Nat) (path : Text) : History :=
  match files.read path with
  | .error _ => empty limit
  | .ok content => ofBytes limit content

/-- Writes the history if there is something new in it. -/
def save (h : History) (files : FileTree) (path : Text) : Except IoError FileTree :=
  if h.fresh = 0 then .ok files else files.write path h.toText.bytes

end History

end MenuLine
