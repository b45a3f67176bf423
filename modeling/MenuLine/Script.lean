import MenuLine.Session
import MenuLine.Unicode.WhiteSpace

/-!
# Scripts

Lines that are evaluated one after another. Blank lines and lines that begin
with `#` are passed over, a line that fails is warned about, and a line that
ends the session ends the script. Two scripts run at the start: the lines
from the settings, and those of a file in the home folder.
-/

namespace MenuLine

namespace Script

/-- The warning about a line that was not carried out, if it was not. -/
def complaint : Outcome → Option Text
  | .parseError cause => some cause.message
  | .ran progress => progress.missing.map (· ++ ": command not found".toList)
  | .empty => none

def warning (source : Text) (number : Nat) (complaint : Text) : Text :=
  "Warning: ".toList ++ source ++ " line ".toList ++ Text.ofNat number ++ ": ".toList ++ complaint

/-- Whether a trimmed line is left out. -/
def isComment (line : Text) : Bool := line.isEmpty || line.head? = some '#'

variable {τ : Type} [Sink τ]

/-- Evaluates the lines, of which the first has this number. -/
def runFrom (shell : Shell) (source : Text) (session : Session τ) :
    Nat → List Text → Option IoError × Session τ
  | _, [] => (none, session)
  | number, line :: lines =>
    if isComment line.trim then runFrom shell source session (number + 1) lines
    else match session.evaluate shell line.trim with
      | (.error e, session) => (some e, session)
      | (.ok outcome, session) =>
        let session := match complaint outcome with
          | none => session
          | some text => session.warn (warning source number text)
        if session.exitRequested then (none, session)
        else runFrom shell source session (number + 1) lines

def run (shell : Shell) (source : Text) (session : Session τ) (lines : List Text) :
    Option IoError × Session τ :=
  runFrom shell source session 1 lines

/-- The lines of the file in the home folder, if it can be read. -/
def homeLines (env : Environment) (files : FileTree) : List Text :=
  match env.home with
  | none => []
  | some home =>
    match files.readText (Path.join home ".netpromptrc".toList) with
    | .error _ => []
    | .ok text => text.lines

/-- Runs the script of the settings and then the script of the home folder,
which is read only after the first script has run. -/
def startUp (shell : Shell) (env : Environment) (session : Session τ) :
    Option IoError × Session τ :=
  match run shell "config startup".toList session shell.config.startup with
  | (some e, session) => (some e, session)
  | (none, session) =>
    run shell "~/.netpromptrc".toList session (homeLines env session.files)

end Script

end MenuLine
