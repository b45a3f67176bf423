import MenuLine.Statement.Parser

/-!
# Descriptions of commands

A description is exactly one statement without filters and without an output
file. The registration errors of commands, menus, completers and filters are
gathered here.
-/

namespace MenuLine

inductive RegistrationError where
  | invalidDescription (description : Text) (cause : ParseError)
  | emptyDescription
  | notSingleStatement (description : Text)
  | redirectInDescription (description : Text)
  | duplicateCompleter (name : Text)
  | duplicateFilter (name : Text)
  | duplicateMenu (name : Text)
  | unknownMenu (name : Text)
deriving DecidableEq, Repr

namespace RegistrationError

def message : RegistrationError → Text
  | invalidDescription d cause =>
    "invalid command description '".toList ++ d ++ "': ".toList ++ cause.message
  | emptyDescription => "empty command description".toList
  | notSingleStatement d => "expected a single command in '".toList ++ d ++ ['\'']
  | redirectInDescription d =>
    "command description '".toList ++ d ++ "' cannot filter or redirect output".toList
  | duplicateCompleter n => "completer ".toList ++ n ++ " is already registered".toList
  | duplicateFilter n => "filter ".toList ++ n ++ " is already registered".toList
  | duplicateMenu n => "command set ".toList ++ n ++ " is already registered".toList
  | unknownMenu n => "unknown command set: ".toList ++ n

end RegistrationError

/-- A description as it was registered, and what it says. -/
structure Description where
  source : Text
  statement : Statement
deriving DecidableEq, Repr

namespace Description

def parse (source : Text) : Except RegistrationError Description :=
  match Statement.parse .description source with
  | .error e => .error (.invalidDescription source e)
  | .ok [] => .error .emptyDescription
  | .ok [s] =>
    if s.filters.isEmpty && s.output.isNone then .ok ⟨source, s⟩
    else .error (.redirectInDescription source)
  | .ok (_ :: _ :: _) => .error (.notSingleStatement source)

def segments (d : Description) : List Segment := d.statement.segments

end Description

end MenuLine
