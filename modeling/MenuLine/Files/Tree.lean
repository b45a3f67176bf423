import MenuLine.Files.Path
import MenuLine.Stream.IoError

/-!
# A tree of files

Folders and files by their location, which is the list of names from the root
on. Relative paths start at the current folder. Each operation on a path goes
from folder to folder and reports the first fault on its way.
-/

namespace MenuLine

inductive FileEntry where
  | folder
  | file (content : Bytes)
deriving DecidableEq, Repr

abbrev Location := List Text

structure FileTree where
  current : Location
  entries : List (Location × FileEntry)
deriving DecidableEq, Repr

namespace FileTree

/-- The root is always there. -/
def get? (t : FileTree) (place : Location) : Option FileEntry :=
  if place = [] then some .folder else (t.entries.find? fun e => e.1 == place).map Prod.snd

@[simp] theorem get?_root (t : FileTree) : t.get? [] = some .folder := rfl

def put (t : FileTree) (place : Location) (entry : FileEntry) : FileTree :=
  if t.entries.any fun e => e.1 == place then
    { t with entries := t.entries.map fun e => if e.1 == place then (place, entry) else e }
  else { t with entries := t.entries ++ [(place, entry)] }

theorem get?_put_self {t : FileTree} {place : Location} (h : place ≠ []) (entry : FileEntry) :
    (t.put place entry).get? place = some entry := by
  rw [get?, if_neg h, put]
  split
  · next hany =>
    dsimp only
    generalize t.entries = es at hany
    induction es with
    | nil => simp at hany
    | cons e es ih =>
      by_cases he : e.1 = place
      · simp [he]
      · have hne : (e.1 == place) = false := by simpa using he
        simp only [List.any_cons, hne, Bool.false_or] at hany
        simpa [hne, he] using ih hany
  · next hany =>
    have hnone : t.entries.find? (fun e => e.1 == place) = none := by
      rw [List.find?_eq_none]
      intro e he hp
      exact hany (List.any_eq_true.2 ⟨e, he, hp⟩)
    simp [List.find?_append, hnone]

theorem get?_put_of_ne {t : FileTree} {place other : Location} (h : other ≠ place)
    (entry : FileEntry) : (t.put place entry).get? other = t.get? other := by
  unfold get?
  split
  · rfl
  · have hne : (place == other) = false := by simpa using Ne.symm h
    congr 1
    unfold put
    split
    · dsimp only
      generalize t.entries = es
      induction es with
      | nil => rfl
      | cons e es ih =>
        rw [List.map_cons, List.find?_cons, List.find?_cons, ih]
        by_cases he : e.1 = place
        · simp [he, hne]
        · simp [he]
    · simp [List.find?_append, hne]

/-- Adds the folders that lead to a location. -/
def addFolders (t : FileTree) (place : Location) : FileTree :=
  (List.range (place.length + 1)).foldl
    (fun t n => if (t.get? (place.take n)).isSome then t else t.put (place.take n) .folder) t

def addFile (t : FileTree) (place : Location) (content : Bytes) : FileTree :=
  (t.addFolders place.dropLast).put place (.file content)

/-- The names in a folder with what they stand for, in ascending order. -/
def children (t : FileTree) (place : Location) : List (Text × FileEntry) :=
  (t.entries.filterMap fun e =>
    if e.1.dropLast = place then e.1.getLast?.map fun name => (name, e.2) else none).mergeSort
      fun a b => Text.le a.1 b.1

/-- Every file below a location, with its path from there. -/
def filesBelow (t : FileTree) (place : Location) : List (Text × Bytes) :=
  t.entries.filterMap fun e =>
    match e.2 with
    | .folder => none
    | .file content =>
      if place.isPrefixOf e.1 then
        some (List.intercalate ['/'] (e.1.drop place.length), content)
      else none

def maxName : Nat := 255

def maxPath : Nat := 4095

def follow (place : Location) (name : Text) : Location :=
  if name = ['.'] then place
  else if name = ['.', '.'] then place.dropLast
  else place ++ [name]

/-- The entry that a name leads to. -/
def lookup (t : FileTree) (place : Location) (name : Text) :
    Except IoError (Location × FileEntry) :=
  if maxName < name.bytes.length then .error (.path .nameTooLong)
  else match t.get? (follow place name) with
    | none => .error (.path .notFound)
    | some entry => .ok (follow place name, entry)

/-- Goes down through folders. -/
def descend (t : FileTree) (place : Location) : List Text → Except IoError Location
  | [] => .ok place
  | name :: names =>
    match t.lookup place name with
    | .error e => .error e
    | .ok (_, .file _) => .error (.path .notDirectory)
    | .ok (next, .folder) => descend t next names

/-- The folder that holds the last name of a path, that name if there is one,
and whether a slash follows it. -/
def locate (t : FileTree) (path : Text) : Except IoError (Location × Option Text × Bool) :=
  if path.contains '\x00' then .error .nulInPath
  else if path = [] then .error (.path .notFound)
  else if maxPath < path.bytes.length then .error (.path .nameTooLong)
  else
    let names := Path.steps path
    (t.descend (if Path.isAbsolute path then [] else t.current) names.dropLast).map fun place =>
      (place, names.getLast?, path.getLast? = some '/')

def stat (t : FileTree) (path : Text) : Except IoError (Location × FileEntry) :=
  match t.locate path with
  | .error e => .error e
  | .ok (place, none, _) => .ok (place, .folder)
  | .ok (place, some name, slash) =>
    match t.lookup place name with
    | .error e => .error e
    | .ok (found, .folder) => .ok (found, .folder)
    | .ok (found, .file content) =>
      if slash then .error (.path .notDirectory) else .ok (found, .file content)

def isFolder (t : FileTree) (path : Text) : Bool :=
  match t.stat path with
  | .ok (_, .folder) => true
  | _ => false

def pathExists (t : FileTree) (path : Text) : Bool := (t.stat path).isOk

/-- The bytes of a file. -/
def read (t : FileTree) (path : Text) : Except IoError Bytes :=
  match t.stat path with
  | .error e => .error e
  | .ok (_, .folder) => .error (.path .isDirectory)
  | .ok (_, .file content) => .ok content

/-- The text of a file, which must be UTF-8. -/
def readText (t : FileTree) (path : Text) : Except IoError Text :=
  match t.read path with
  | .error e => .error e
  | .ok content =>
    match Text.ofBytes? content with
    | some text => .ok text
    | none => .error .notUtf8

/-- Where a file of this path would be written; it need not be there yet. -/
def place (t : FileTree) (path : Text) : Except IoError Location :=
  match t.locate path with
  | .error e => .error e
  | .ok (_, none, _) => .error (.path .isDirectory)
  | .ok (folder, some name, slash) =>
    if slash || name = ['.'] || name = ['.', '.'] then .error (.path .isDirectory)
    else match t.lookup folder name with
      | .ok (_, .folder) => .error (.path .isDirectory)
      | .ok (found, .file _) => .ok found
      | .error (.path .notFound) => .ok (folder ++ [name])
      | .error e => .error e

/-- Makes an empty file, in place of the one that was there. -/
def create (t : FileTree) (path : Text) : Except IoError (Location × FileTree) :=
  (t.place path).map fun place => (place, t.put place (.file []))

def write (t : FileTree) (path : Text) (content : Bytes) : Except IoError FileTree :=
  (t.place path).map fun place => t.put place (.file content)

/-- The current folder as a path. -/
def currentPath (t : FileTree) : Text := '/' :: List.intercalate ['/'] t.current

end FileTree

end MenuLine
