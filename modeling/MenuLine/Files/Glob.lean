import MenuLine.Files.Tree

/-!
# Names of files and folders

Candidates for a half-typed path: every entry of a folder when the path is
one, and otherwise the entries of its parent that begin as its last name does.
Folders are followed by a slash, so that typing can go on inside them.
-/

namespace MenuLine

namespace FileTree

/-- One name further along a path; in the current folder names stand alone. -/
def extend (path name : Text) : Text := if path = ['.'] then name else Path.join path name

/-- Follows the names of a folder literally. `.` and `..` ask for a folder and
other names for anything that is there. -/
def followNames (t : FileTree) (path : Text) : List Text → Option Text
  | [] => some path
  | name :: names =>
    let next := extend path name
    let found := if name = ['.'] || name = ['.', '.'] then t.isFolder path else t.pathExists next
    if found then followNames t next names else none

/-- The paths of the entries of `path` whose names begin with `start`. -/
def entriesFrom (t : FileTree) (path start : Text) : List Text :=
  match t.stat path with
  | .ok (place, .folder) =>
    ((t.children place).filter fun e => start.isPrefixOf e.1).map fun e =>
      match e.2 with
      | .folder => extend path e.1 ++ ['/']
      | .file _ => extend path e.1
  | _ => []

def dropSlashes (path : Text) : Text := (path.reverse.dropWhile (· == '/')).reverse

/-- The names of a folder between its slashes, and the path to start from. -/
def splitFolder (folder : Text) : Text × List Text :=
  let names := (Path.namesBack (dropSlashes folder)).reverse
  match names with
  | [] :: names => (['/'], names)
  | names => (['.'], names)

def candidatesIn (t : FileTree) (folder start : Text) : List Text :=
  if folder.isEmpty then t.entriesFrom ['.'] start
  else
    let (root, names) := splitFolder folder
    match t.followNames root names with
    | none => []
    | some path => t.entriesFrom path start

/-- The completer of paths. Nothing typed stands for the current folder. -/
def complete (t : FileTree) (typed : Text) : List Text :=
  let seed := if typed.isEmpty then t.currentPath else typed
  if t.isFolder seed then t.candidatesIn seed []
  else t.candidatesIn ((Path.parent? seed).getD []) ((Path.fileName? seed).getD [])

end FileTree

end MenuLine
