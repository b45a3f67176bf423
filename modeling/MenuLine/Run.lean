import MenuLine.Dialogue
import MenuLine.Options
import MenuLine.Shipped

/-!
# Runs of the program

What the program does with its options: it explains itself, runs one line, or
holds a dialogue on its input.
-/

namespace MenuLine

namespace Run

inductive Status where
  | success
  | failure
deriving DecidableEq, Repr

def Status.code : Status → Nat
  | success => 0
  | failure => 1

variable {τ : Type} [Sink τ]

/-- Runs a single line. That succeeds if some command fits every statement
that was reached. -/
def line (shell : Shell) (session : Session τ) (line : Text) : Status × Session τ :=
  match session.evaluate shell line with
  | (.ok .empty, session) => (.success, session)
  | (.ok (.parseError _), session) => (.failure, session)
  | (.ok (.ran progress), session) =>
    (if progress.missing.isNone then .success else .failure, session)
  | (.error e, session) => (.failure, session.warn ("Error: ".toList ++ e.message))

/-- The end of a dialogue. -/
def conclude (shell : Shell) (d : Dialogue τ) : Status × Session τ :=
  match d.failure with
  | none => (.success, d.finish shell)
  | some e => (.failure, (d.finish shell).warn ("REPL error: ".toList ++ e.message))

/-- Holds a dialogue on all lines of the input. -/
def dialogue (shell : Shell) (env : Environment) (session : Session τ) (input : Bytes) :
    Status × Session τ :=
  conclude shell ((Dialogue.start shell env session).hearAll shell input.lines)

/-- The session that options begin with, after what there was to warn about. -/
def opening (files : FileTree) (sink : τ) (warnings : List Text) : Session τ :=
  warnings.foldl Session.warn (Session.start files sink)

def printed (session : Session τ) (text : Text) : Session τ :=
  { session with sink := (Sink.writeText session.sink text).2 }

/-- A whole run, from the words behind the name of the program on. -/
def program (words : List Text) (env : Environment) (files : FileTree) (input : Bytes)
    (sink : τ) : Status × Session τ :=
  let (options, warnings) := Options.read words
  if options.help then (.success, printed (opening files sink warnings) Options.helpText)
  else if options.version then
    (.success, printed (opening files sink warnings) Options.versionText)
  else
    let (config, warning) := Config.discover env files options.config
    let session := opening files sink (warnings ++ warning.toList)
    match Shipped.shell config with
    | .error e => (.failure, session.warn ("Error: ".toList ++ e.message))
    | .ok shell =>
      match options.command with
      | some text => line shell session text
      | none => dialogue shell env session input

end Run

end MenuLine
