import MenuLine.Completion
import MenuLine.Config
import MenuLine.Match
import MenuLine.Menu
import MenuLine.Pipeline

/-!
# Shells

A shell holds all that has been registered: menus with their commands,
completers and filters, and the settings. A command pairs a description with
a handler. Handlers do not reach into the shell; they write, and they may ask
for other menus or for the end of the session.
-/

namespace MenuLine

/-- What a handler asks for. It is done after the handler and its filters
have come to their ends. -/
inductive Request where
  | enter (menu : Text)
  | leave
  | exit
deriving DecidableEq, Repr

/-- A handler is given the files as they are when it starts, and the
arguments of its command. -/
abbrev Handler := FileTree → List Text → Head (List Request)

structure Command where
  description : Description
  handler : Handler

structure Shell where
  config : Config
  menus : Menus Command
  completers : Table (FileTree → Completer)
  filters : Table Filter

namespace Shell

def empty (config : Config) : Shell := ⟨config, .empty, .empty, .empty⟩

def addMenu (shell : Shell) (name : Text) : Except RegistrationError Shell :=
  match shell.menus.create name with
  | .error e => .error e
  | .ok menus => .ok { shell with menus := menus }

/-- The description is read before its menu is looked for. -/
def addCommand (shell : Shell) (menu description : Text) (handler : Handler) :
    Except RegistrationError Shell :=
  match Description.parse description with
  | .error e => .error e
  | .ok description =>
    match shell.menus.add menu ⟨description, handler⟩ with
    | .error e => .error e
    | .ok menus => .ok { shell with menus := menus }

def addCompleter (shell : Shell) (name : Text) (completer : FileTree → Completer) :
    Except RegistrationError Shell :=
  match shell.completers.insert? name completer with
  | none => .error (.duplicateCompleter name)
  | some completers => .ok { shell with completers := completers }

def addFilter (shell : Shell) (name : Text) (filter : Filter) : Except RegistrationError Shell :=
  match shell.filters.insert? name filter with
  | none => .error (.duplicateFilter name)
  | some filters => .ok { shell with filters := filters }

/-- The name of the menu whose commands can be used, if there is any menu. -/
def currentName? (shell : Shell) (stack : MenuStack) : Option Text :=
  match stack.current shell.menus with
  | .error _ => none
  | .ok id => (shell.menus.get? id).map Menu.name

/-- The descriptions of the commands of a menu. -/
def descriptions (shell : Shell) (menu : MenuId) : List Statement :=
  (shell.menus.commands menu).map fun c => c.description.statement

/-- A command and where it is found. -/
structure Choice where
  menu : MenuId
  position : Nat
  command : Command

/-- The command of the current menu that fits a statement best. -/
def choose (shell : Shell) (stack : MenuStack) (statement : Statement) : Option Choice :=
  match stack.current shell.menus with
  | .error _ => none
  | .ok menu =>
    match statement.select (shell.descriptions menu) with
    | none => none
    | some (position, _) =>
      (shell.menus.commands menu)[position]?.map fun command => ⟨menu, position, command⟩

/-- The completer of this name, at work on the files as they are. -/
def completer? (shell : Shell) (files : FileTree) (name : Text) : Option Completer :=
  (shell.completers.find? name).map (· files)

/-- At most as many suggestions as the settings allow. -/
def capped (shell : Shell) (suggestions : List Text) : List Text :=
  if shell.config.maxSuggestions = 0 then suggestions
  else suggestions.take shell.config.maxSuggestions

/-- The lines that may replace the last statement of a half-typed line. A
line that cannot be read has none. -/
def suggest (shell : Shell) (stack : MenuStack) (files : FileTree) (line : Text) : List Text :=
  match Statement.parse .input line, stack.current shell.menus with
  | .ok statements, .ok menu =>
    let typed := (statements.getLast?.map Statement.segments).getD []
    shell.capped (Completion.suggest (shell.completer? files) typed (shell.descriptions menu))
  | _, _ => []

def prompt (shell : Shell) (stack : MenuStack) (host : Text) : Text :=
  shell.config.renderPrompt ((shell.currentName? stack).getD []) host

end Shell

end MenuLine
