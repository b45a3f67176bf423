import MenuLine.Shell

/-!
# Moving between menus

Handlers that write nothing and ask for another menu or for the end.
-/

namespace MenuLine

namespace Navigation

/-- A handler that only asks. -/
def ask (requests : List Request) : Handler := fun _ _ => .stop ⟨requests, none⟩

def enter (menu : Text) : Handler := ask [.enter menu]

def leave : Handler := ask [.leave]

def exit : Handler := ask [.exit]

/-- Enters the menu that the only argument names. -/
def enterNamed : Handler := fun files args =>
  match args with
  | [menu] => enter menu files args
  | _ => .write (Text.bytes "expected a single argument".toList) fun e => .stop ⟨[], e⟩

end Navigation

end MenuLine
