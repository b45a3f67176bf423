import MenuLine.Text.Basic

/-!
# Paths

A path is a text with slashes. Slashes at its end, doubled slashes and the
name `.` inside it stand for nothing; a `.` at the start of a relative path
counts as a name.
-/

namespace MenuLine

namespace Path

/-- What stands between the slashes, the last name first. -/
def namesBack (path : Text) : List Text :=
  let (names, last) := cutLines '/' path
  (names ++ [last]).reverse

/-- Takes off the names that stand for nothing, but not the first one. -/
def dropVoid : List Text → List Text
  | name :: next :: rest =>
    if name = [] || name = ['.'] then dropVoid (next :: rest) else name :: next :: rest
  | names => names

def ofNamesBack : List Text → Text
  | [[]] => ['/']
  | names => List.intercalate ['/'] names.reverse

/-- The path without its last name; the root and the empty path have none. -/
def parent? (path : Text) : Option Text :=
  match dropVoid (namesBack path) with
  | [] | [[]] => none
  | _ :: names => some (ofNamesBack (dropVoid names))

/-- The last name of a path, unless it only leads up or stays. -/
def fileName? (path : Text) : Option Text :=
  match dropVoid (namesBack path) with
  | name :: _ => if name = [] || name = ['.'] || name = ['.', '.'] then none else some name
  | [] => none

def join (folder name : Text) : Text :=
  if folder.isEmpty || folder.getLast? = some '/' then folder ++ name else folder ++ '/' :: name

@[simp] theorem join_nil (name : Text) : join [] name = name := rfl

def isAbsolute (path : Text) : Bool := path.head? = some '/'

/-- The names on the way, the empty ones left out. -/
def steps (path : Text) : List Text := (namesBack path).reverse.filter (! ·.isEmpty)

end Path

end MenuLine
