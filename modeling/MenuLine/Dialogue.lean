import MenuLine.Correction
import MenuLine.History
import MenuLine.Script

/-!
# Dialogues

A dialogue is a session that reads line after line, as corrected while it was
typed, and keeps a history of what has run. It ends with its input, with a line
that is not text, or when some command has asked for the end.
-/

namespace MenuLine

structure Dialogue (τ : Type) where
  session : Session τ
  history : History
  /-- The failure that has ended the dialogue. -/
  failure : Option IoError
  /-- No further line is wanted. -/
  finished : Bool

namespace Dialogue

variable {τ : Type}

def unreadable : Text :=
  ["Error: Io(Error \x7b kind: InvalidData, ",
    "message: \"stream did not contain valid UTF-8\" \x7d)"].flatMap String.toList

/-- The history file of the settings, if there is one, is read. -/
def historyOf (shell : Shell) (files : FileTree) : History :=
  match shell.config.historyFile with
  | none => .empty shell.config.historySize
  | some path => .load files shell.config.historySize path

variable [Sink τ]

/-- Runs the scripts of the start. -/
def start (shell : Shell) (env : Environment) (session : Session τ) : Dialogue τ :=
  let history := historyOf shell session.files
  let (failure, session) := Script.startUp shell env session
  ⟨session, history, failure, failure.isSome || session.exitRequested⟩

def hearText (shell : Shell) (d : Dialogue τ) (line : Text) : Dialogue τ :=
  match d.session.evaluate shell line with
  | (.error e, session) => { d with session := session, failure := some e, finished := true }
  | (.ok outcome, session) =>
    { d with
      session := session
      history := d.history.addAll outcome.executed
      finished := session.exitRequested }

/-- The line that some bytes are meant to be, if they are text. -/
def lineOf (bytes : Bytes) : Option Text := (Text.ofBytes? bytes).map Correction.correct

/-- Goes on with one more line. -/
def hear (shell : Shell) (d : Dialogue τ) (line : Bytes) : Dialogue τ :=
  match lineOf line with
  | none => { d with session := d.session.warn unreadable, finished := true }
  | some text => d.hearText shell text

/-- Goes on with lines until no further one is wanted. -/
def hearAll (shell : Shell) (d : Dialogue τ) : List Bytes → Dialogue τ
  | [] => d
  | line :: lines => if d.finished then d else hearAll shell (d.hear shell line) lines

def cannotSave (path : Text) (e : IoError) : Text :=
  "Warning: cannot save history to ".toList ++ path ++ ": ".toList ++ e.message

/-- Saves the history at the end, unless the dialogue has failed. -/
def finish (shell : Shell) (d : Dialogue τ) : Session τ :=
  match d.failure, shell.config.historyFile with
  | none, some path =>
    match d.history.save d.session.files path with
    | .ok files => { d.session with files := files }
    | .error e => d.session.warn (cannotSave path e)
  | _, _ => d.session

end Dialogue

end MenuLine
