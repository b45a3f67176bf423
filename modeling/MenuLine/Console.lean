import MenuLine.Shell

/-!
# Consoles

A console is a shell together with the menus that are open in it. The program
around it creates menus, registers commands, and enters and leaves menus, in
any order. What is refused changes nothing.
-/

namespace MenuLine

universe u

inductive Operation where
  | create (name : Text)
  | register (menu description : Text) (handler : Handler)
  | enter (name : Text)
  | leave

inductive OperationError where
  | registration (cause : RegistrationError)
  | stack (cause : StackError)
deriving DecidableEq, Repr

namespace Operation

variable {σ : Type u}

/-- What each operation of a list is refused for, if it is refused, and what is
left after the last. -/
def replay (act : σ → Operation → Option OperationError × σ) (s : σ) :
    List Operation → List (Option OperationError) × σ
  | [] => ([], s)
  | op :: ops =>
    ((act s op).1 :: (replay act (act s op).2 ops).1, (replay act (act s op).2 ops).2)

theorem replay_append (act : σ → Operation → Option OperationError × σ) (s : σ)
    (ops more : List Operation) :
    replay act s (ops ++ more) =
      ((replay act s ops).1 ++ (replay act (replay act s ops).2 more).1,
        (replay act (replay act s ops).2 more).2) := by
  induction ops generalizing s with
  | nil => rfl
  | cons op ops ih => simp only [List.cons_append, replay, ih]

end Operation

/-- What can be seen of the menus. -/
structure View where
  /-- The open menus, the root first. -/
  names : List Text
  /-- The current menu; no name where there is no menu of its number. -/
  current : Except StackError (Option Text)
  /-- The current menu as prompts have it. -/
  shown : Option Text
  depth : Nat

structure Console where
  shell : Shell
  stack : MenuStack

namespace Console

def start (config : Config) : Console := ⟨.empty config, .empty⟩

def act (c : Console) : Operation → Option OperationError × Console
  | .create name =>
    match c.shell.addMenu name with
    | .error e => (some (.registration e), c)
    | .ok shell => (none, { c with shell := shell })
  | .register menu description handler =>
    match c.shell.addCommand menu description handler with
    | .error e => (some (.registration e), c)
    | .ok shell => (none, { c with shell := shell })
  | .enter name =>
    match c.stack.push c.shell.menus name with
    | .error e => (some (.stack e), c)
    | .ok stack => (none, { c with stack := stack })
  | .leave =>
    match c.stack.pop with
    | .error e => (some (.stack e), c)
    | .ok stack => (none, { c with stack := stack })

theorem act_of_refused {c : Console} {op : Operation} (h : (c.act op).1 ≠ none) :
    (c.act op).2 = c := by
  cases op with
  | create name => cases hadd : c.shell.addMenu name <;> simp_all [act]
  | register menu description handler =>
      cases hadd : c.shell.addCommand menu description handler <;> simp_all [act]
  | enter name => cases hpush : c.stack.push c.shell.menus name <;> simp_all [act]
  | leave => cases hpop : c.stack.pop <;> simp_all [act]

def view (c : Console) : View where
  names := c.stack.names c.shell.menus
  current := (c.stack.current c.shell.menus).map fun id => (c.shell.menus.get? id).map Menu.name
  shown := c.shell.currentName? c.stack
  depth := c.stack.depth

end Console

end MenuLine
