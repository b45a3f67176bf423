import MenuLine.Files.Tree
import MenuLine.Toml.Reader

/-!
# Settings

What can be set in a file, where that file is looked for, and the prompt that
results.
-/

namespace MenuLine

structure Config where
  prompt : Text
  historyFile : Option Text
  historySize : Nat
  /-- The number of suggestions that are shown at most; none is no bound. -/
  maxSuggestions : Nat
  startup : List Text
deriving DecidableEq, Repr

/-- The variables of the environment that settings depend on. -/
structure Environment where
  home : Option Text
  config : Option Text
  prompt : Option Text
deriving DecidableEq, Repr

inductive ConfigError where
  | unreadable (cause : IoError)
  | invalid
deriving DecidableEq, Repr

namespace ConfigError

def message : ConfigError → Text
  | unreadable cause => "cannot read config: ".toList ++ cause.message
  | invalid => "invalid config".toList

end ConfigError

namespace Config

def default : Config where
  prompt := "\x7bset\x7d> ".toList
  historyFile := none
  historySize := 1000
  maxSuggestions := 0
  startup := []

def textOf? : Toml.Item → Option Text
  | .text t => some t
  | _ => none

def sizeOf? : Toml.Item → Option Nat
  | .integer n => if 0 ≤ n then some n.toNat else none
  | _ => none

def textsOf? : Toml.Item → Option (List Text)
  | .array items => items.mapM textOf?
  | _ => none

/-- A setting that is missing has its default, and one of the wrong kind
spoils the file. -/
def setting (entries : Toml.Entries) (key : String) (read : Toml.Item → Option α) (missing : α) :
    Option α :=
  match entries.find? key.toList with
  | none => some missing
  | some item => read item

def ofEntries? (entries : Toml.Entries) : Option Config := do
  let prompt ← setting entries "prompt" textOf? default.prompt
  let historyFile ← setting entries "history_file" (fun i => (textOf? i).map some) none
  let historySize ← setting entries "history_size" sizeOf? default.historySize
  let maxSuggestions ← setting entries "max_suggestions" sizeOf? default.maxSuggestions
  let startup ← setting entries "startup" textsOf? []
  return ⟨prompt, historyFile, historySize, maxSuggestions, startup⟩

def parse (file : Text) : Except ConfigError Config :=
  match (Toml.read file).bind ofEntries? with
  | some config => .ok config
  | none => .error .invalid

def load (files : FileTree) (path : Text) : Except ConfigError Config :=
  match files.readText path with
  | .error e => .error (.unreadable e)
  | .ok text => parse text

/-- The file named by the user, else the one named by the environment, else
the one in the home folder. -/
def locate (env : Environment) (named : Option Text) : Option Text :=
  named <|> env.config <|> env.home.map fun home => Path.join home ".netprompt.toml".toList

/-- Finds and loads the settings; a file that was not asked for by the user
may be missing. Also gives the warning about a file that cannot be used. -/
def discover (env : Environment) (files : FileTree) (named : Option Text) :
    Config × Option Text :=
  let (config, warning) := match locate env named with
    | none => (default, none)
    | some path =>
      if !files.pathExists path && named.isNone then (default, none)
      else match load files path with
        | .ok config => (config, none)
        | .error e => (default, some ("Warning: ".toList ++ path ++ ": ".toList ++ e.message))
  ({ config with prompt := env.prompt.getD config.prompt }, warning)

/-- Replaces a mark by a text, from left to right, and goes on behind what has
been put in. `skip` characters belong to a mark that has been replaced. -/
def replaceMark (mark new : Text) (skip : Nat) : Text → Text
  | [] => []
  | c :: r =>
    match skip with
    | skip + 1 => replaceMark mark new skip r
    | 0 =>
      if mark.isPrefixOf (c :: r) then new ++ replaceMark mark new (mark.length - 1) r
      else c :: replaceMark mark new 0 r

def setMark : Text := ['{', 's', 'e', 't', '}']

def hostMark : Text := ['{', 'h', 'o', 's', 't', '}']

/-- Fills in the name of the menu and after that the name of the host, which
the name of the menu may have called for. -/
def renderPrompt (config : Config) (menu host : Text) : Text :=
  replaceMark hostMark host 0 (replaceMark setMark menu 0 config.prompt)

end Config

end MenuLine
