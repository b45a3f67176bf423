import MenuLine.Shell

/-!
# Catalogs

A catalog is a shell together with the index of its menus: a map from the names
of menus to their positions, which new menus are entered in as they are created.
Menus are looked up in the index and not among themselves. The stack of open
menus goes along with it.
-/

namespace MenuLine

inductive Registration where
  | menu (name : Text)
  | command (menu description : Text) (handler : Handler)
  | completer (name : Text) (completer : FileTree → Completer)
  | filter (name : Text) (filter : Filter)

namespace Shell

/-- What is registered in a shell that looks for menus among themselves. -/
def register (shell : Shell) : Registration → Except RegistrationError Shell
  | .menu name => shell.addMenu name
  | .command menu description handler => shell.addCommand menu description handler
  | .completer name completer => shell.addCompleter name completer
  | .filter name filter => shell.addFilter name filter

end Shell

structure Catalog where
  shell : Shell
  index : Text → Option MenuId
  stack : MenuStack

namespace Catalog

/-- Before anything is registered. -/
def start (config : Config) (stack : MenuStack) : Catalog := ⟨.empty config, fun _ => none, stack⟩

/-- A new menu comes after all others, and its position into the index. -/
def create (c : Catalog) (name : Text) : Catalog :=
  { c with
    shell.menus := ⟨c.shell.menus.all ++ [⟨name, []⟩]⟩
    index := fun other => if other = name then some c.shell.menus.size else c.index other }

/-- A new command comes after all others of the menu at this position. -/
def append (c : Catalog) (id : MenuId) (command : Command) : Catalog :=
  { c with
    shell.menus := ⟨c.shell.menus.all.modify id fun menu =>
      { menu with commands := menu.commands ++ [command] }⟩ }

/-- What a registration is refused for, if it is refused, and what is left. -/
def register (c : Catalog) : Registration → Option RegistrationError × Catalog
  | .menu name =>
    if (c.index name).isSome then (some (.duplicateMenu name), c) else (none, c.create name)
  | .command menu description handler =>
    match Description.parse description with
    | .error e => (some e, c)
    | .ok description =>
      match c.index menu with
      | none => (some (.unknownMenu menu), c)
      | some id => (none, c.append id ⟨description, handler⟩)
  | .completer name completer =>
    match c.shell.completers.insert? name completer with
    | none => (some (.duplicateCompleter name), c)
    | some completers => (none, { c with shell.completers := completers })
  | .filter name filter =>
    match c.shell.filters.insert? name filter with
    | none => (some (.duplicateFilter name), c)
    | some filters => (none, { c with shell.filters := filters })

/-- After all registrations of a list. -/
def registerAll (c : Catalog) (rs : List Registration) : Catalog :=
  rs.foldl (fun c r => (c.register r).2) c

@[simp] theorem registerAll_nil (c : Catalog) : c.registerAll [] = c := rfl

@[simp] theorem registerAll_cons (c : Catalog) (r : Registration) (rs : List Registration) :
    c.registerAll (r :: rs) = (c.register r).2.registerAll rs := rfl

end Catalog

end MenuLine
