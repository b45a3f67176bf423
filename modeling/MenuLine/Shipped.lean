import MenuLine.Files.Glob
import MenuLine.Filter.Grep
import MenuLine.Navigation

/-!
# The menus that come with the program

The first menu leads to a menu that greets and to a menu that lists files.
-/

namespace MenuLine

namespace Shipped

def names : List Text :=
  ["Todd", "Elizabeth", "Ellen", "Eleanore"].map String.toList

def completeName : Completer := fun seed => names.filter seed.isPrefixOf

/-- An enumeration in prose. -/
def enumerate : List Text → Text
  | [] => []
  | [name] => name
  | [name, last] => name ++ " and ".toList ++ last
  | name :: names => name ++ ", ".toList ++ enumerate names

/-- Writes lines up to the first failure. -/
def writing (lines : List Text) : Head (List Request) :=
  .emitAllOr (fun e => ⟨[], some e⟩) (lines.map fun line => Text.bytes (line ++ ['\n']))
    (.stop ⟨[], none⟩)

def hello : Handler := fun _ args => writing ["Hello ".toList ++ enumerate args ++ ['!']]

def sized (name : Text) (content : Bytes) : Text :=
  name ++ " is ".toList ++ Text.ofNat content.length ++ " bytes".toList

/-- A file with its size, or a folder in angle brackets. -/
def entryLine : Text × FileEntry → Text
  | (name, .file content) => sized name content
  | (name, .folder) => '<' :: name ++ ['>']

def list : Handler := fun files args =>
  match args with
  | [] => writing []
  | path :: _ =>
    match files.stat path with
    | .error e => writing ["error listing ".toList ++ path ++ ": ".toList ++ e.message]
    | .ok (_, .file content) => writing [sized path content]
    | .ok (place, .folder) => writing ((files.children place).map entryLine)

/-- What the program starts with. Nothing in it is refused. -/
def shell (config : Config) : Except RegistrationError Shell := do
  let s ← (Shell.empty config).addCompleter "fileOrDir".toList FileTree.complete
  let s ← s.addCompleter "name".toList fun _ => completeName
  let s ← s.addFilter "grep".toList Grep.filter
  let s ← s.addMenu "default".toList
  let s ← s.addMenu "names".toList
  let s ← s.addMenu "files".toList
  let s ← s.addCommand "default".toList "exit".toList Navigation.exit
  let s ← s.addCommand "default".toList "names".toList (Navigation.enter "names".toList)
  let s ← s.addCommand "default".toList "list-files".toList (Navigation.enter "files".toList)
  let s ← s.addCommand "names".toList "exit".toList Navigation.leave
  let s ← s.addCommand "names".toList "hello $*:name".toList hello
  let s ← s.addCommand "files".toList "exit".toList Navigation.leave
  s.addCommand "files".toList "ls $1:fileOrDir".toList list

end Shipped

end MenuLine
