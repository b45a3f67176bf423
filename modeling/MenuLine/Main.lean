import MenuLine.Run

/-!
# The program

Looks up the files that settings, scripts and lines name, lets the library do
the work on them, prints what it has written and stores what it has changed.
-/

namespace MenuLine

namespace Main

def pathOf (place : Location) : String := String.ofList ('/' :: List.intercalate ['/'] place)

/-- The location that a path leads to, with the locations on the way. -/
def way (t : FileTree) (path : Text) : List Location :=
  let start := if Path.isAbsolute path then [] else t.current
  (Path.steps path).foldl
    (fun places name => places ++ [FileTree.follow (places.getLast?.getD []) name]) [start]

/-- Adds what is stored at a location, and what a folder holds. -/
def visit (t : FileTree) (place : Location) (inside : Bool) : IO FileTree := do
  try
    let path ← IO.FS.realPath (pathOf place)
    if ← path.isDir then
      let mut t := t.put place .folder
      if inside then
        for entry in ← path.readDir do
          let below := place ++ [entry.fileName.toList]
          if ← entry.path.isDir then t := t.put below .folder
          else
            try t := t.put below (.file (← IO.FS.readBinFile entry.path).toList)
            catch _ => t := t.put below (.file [])
      return t
    else if ← path.pathExists then
      return t.put place (.file (← IO.FS.readBinFile path).toList)
    else return t
  catch _ => return t

def visitPath (t : FileTree) (path : Text) : IO FileTree := do
  let mut t := t
  let places := way t path
  for place in places do t ← visit t place (some place == places.getLast?)
  return t

/-- The paths that a line may be about. -/
def pathsOf (line : Text) : List Text :=
  match Statement.parse .input line with
  | .error _ => []
  | .ok statements =>
    statements.flatMap fun s => (s.segments.drop 1).map Segment.text ++ s.output.toList

def visitAll (t : FileTree) (paths : List Text) : IO FileTree := do
  let mut t := t
  for path in paths do t ← visitPath t path
  return t

def store (old new : FileTree) : IO Unit := do
  for (place, entry) in new.entries do
    match entry with
    | .folder => pure ()
    | .file content =>
      if old.get? place != some entry then
        try IO.FS.writeBinFile (pathOf place) ⟨content.toArray⟩
        catch e => IO.eprintln s!"Warning: {e}"

/-- Prints what a session has written and stores what it has changed since
`old`. -/
def emit (old : FileTree) (s : Session Collector) : IO (Session Collector) := do
  let out ← IO.getStdout
  out.write ⟨s.sink.bytes.toArray⟩
  out.flush
  for warning in s.warnings do IO.eprintln (String.ofList warning)
  store old s.files
  return { s with sink := .empty, warnings := [], calls := [] }

def variableOf (name : String) : IO (Option Text) := do
  return (← IO.getEnv name).map String.toList

def hostName : IO Text := do
  try return Text.trim (← IO.FS.readFile "/etc/hostname").toList
  catch _ => return "localhost".toList

/-- The next line of the input, of which `taken` has been read, the last byte
first. -/
partial def nextLine (input : IO.FS.Stream) (taken : Bytes) : IO (Option Bytes) := do
  match (← input.read 1).toList with
  | [] => return if taken.isEmpty then none else some taken.reverse
  | byte :: _ =>
    if byte = 10 then return (Bytes.lines (byte :: taken).reverse).head?
    else nextLine input (byte :: taken)

partial def converse (shell : Shell) (host : Text) (old : FileTree) (d : Dialogue Collector) :
    IO (Dialogue Collector) := do
  let session ← emit old d.session
  let d := { d with session := session }
  if d.finished then return d
  if ← (← IO.getStdin).isTty then
    IO.print (String.ofList (shell.prompt d.session.stack host))
    (← IO.getStdout).flush
  match ← nextLine (← IO.getStdin) [] with
  | none => return d
  | some line =>
    let files ← visitAll d.session.files (pathsOf ((Dialogue.lineOf line).getD []))
    let d := { d with session := { d.session with files := files } }
    converse shell host files (d.hear shell line)

def dialogue (shell : Shell) (env : Environment) (s : Session Collector) : IO UInt32 := do
  let scripts := shell.config.startup ++ Script.homeLines env s.files
  let files ← visitAll s.files (shell.config.historyFile.toList ++ scripts.flatMap pathsOf)
  let d ← converse shell (← hostName) files
    (Dialogue.start shell env { s with files := files })
  let (status, session) := Run.conclude shell d
  discard (emit d.session.files session)
  return UInt32.ofNat status.code

def run (words : List Text) : IO UInt32 := do
  let here ← IO.currentDir
  let env : Environment := ⟨← variableOf "HOME", ← variableOf "NETPROMPT_CONFIG",
    ← variableOf "NETPROMPT_PROMPT"⟩
  let (options, warnings) := Options.read words
  let home := env.home.map fun home => Path.join home ".netpromptrc".toList
  let place := Path.steps here.toString.toList
  let files ← visitAll (FileTree.addFolders ⟨place, []⟩ place)
    ((Config.locate env options.config).toList ++ home.toList ++
      (options.command.map pathsOf).getD [])
  let (config, warning) := Config.discover env files options.config
  let talks := !options.help && !options.version && options.command.isNone
  match talks, Shipped.shell config with
  | true, .ok shell =>
    dialogue shell env (Run.opening files .empty (warnings ++ warning.toList))
  | _, _ =>
    let (status, session) := Run.program words env files [] .empty
    discard (emit files session)
    return UInt32.ofNat status.code

end Main

end MenuLine

def main (args : List String) : IO UInt32 := MenuLine.Main.run (args.map String.toList)
