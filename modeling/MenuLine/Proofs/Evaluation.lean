import Mathlib.Data.List.Induction
import MenuLine.Navigation
import MenuLine.Proofs.Selection
import MenuLine.Session

/-!
# What evaluation does with a line

The statements of a line take their turns one after the other. A `Turn` is a
statement, the command that was chosen for it and what its pipeline left
behind; `Turn.after` is what is left of a session after it. An account of a
line lists the turns that were taken and says why there were no more; there is
one account of a line and no other (`Account.unique`). The main statement is
`Session.evaluate_account`.
-/

namespace MenuLine

def Sink.tell [Sink τ] (sink : τ) (lines : List Text) : τ :=
  lines.foldl (fun sink line => (Sink.writeLine sink line).2) sink

@[simp] theorem Sink.tell_nil [Sink τ] (sink : τ) : Sink.tell sink [] = sink := rfl

namespace MenuStack

/-- The menus after a request. One that cannot be met changes nothing. -/
def follow (menus : Menus Command) (stack : MenuStack) : Request → MenuStack
  | .enter menu => (stack.push menus menu).toOption.getD stack
  | .leave => stack.pop.toOption.getD stack
  | .exit => stack

/-- What is told of a request that cannot be met. -/
def complaint (menus : Menus Command) (stack : MenuStack) : Request → List Text
  | .enter menu => match stack.push menus menu with
    | .ok _ => []
    | .error e => [e.message]
  | .leave => match stack.pop with
    | .ok _ => []
    | .error e => [e.message]
  | .exit => []

def complaints (menus : Menus Command) : MenuStack → List Request → List Text
  | _, [] => []
  | stack, request :: requests =>
    stack.complaint menus request ++ complaints menus (stack.follow menus request) requests

end MenuStack

namespace Session

variable {τ : Type} [Sink τ]

def heard (menus : Menus Command) (session : Session τ) (requests : List Request) : Session τ :=
  { session with
    stack := requests.foldl (MenuStack.follow menus) session.stack
    exitRequested := session.exitRequested || requests.contains .exit
    sink := Sink.tell session.sink (session.stack.complaints menus requests) }

variable {seen : τ → Bytes}

end Session

/-- A statement, the command that was chosen for it and what its pipeline has
left behind. -/
structure Turn (τ : Type) where
  statement : Statement
  choice : Shell.Choice
  execution : Pipeline.Execution (List Request) τ

namespace Turn

variable {τ : Type}

def args (turn : Turn τ) : List Text :=
  turn.statement.arguments turn.choice.command.description.statement

/-- What the handler asked for, whatever became of its pipeline. -/
def requests (turn : Turn τ) : List Request := turn.execution.value.getD []

def calls (turn : Turn τ) : List Call :=
  if turn.execution.value.isSome then [⟨turn.choice.menu, turn.choice.position, turn.args⟩] else []

/-- The canonical text of a statement whose pipeline has not failed. -/
def executed (turn : Turn τ) : List Text :=
  if turn.execution.failure.isNone then [turn.statement.text] else []

variable [Sink τ]

/-- A session once the pipeline of a turn has come to its end: its failure
has been told, and nothing has been done yet of what the handler asked for. -/
def ran (session : Session τ) (turn : Turn τ) : Session τ :=
  { session with
    files := turn.execution.files
    sink := Sink.tell turn.execution.sink (turn.execution.failure.toList.map PipelineError.message)
    calls := session.calls ++ turn.calls }

def after (menus : Menus Command) (session : Session τ) (turn : Turn τ) : Session τ :=
  (turn.ran session).heard menus turn.requests

@[simp] theorem calls_after (menus : Menus Command) (session : Session τ) (turn : Turn τ) :
    (turn.after menus session).calls = session.calls ++ turn.calls := rfl

def take (shell : Shell) (session : Session τ) (statement : Statement) (choice : Shell.Choice) :
    Turn τ where
  statement := statement
  choice := choice
  execution := Pipeline.execute shell.filters statement.filters statement.output session.files
    session.sink fun files =>
      choice.command.handler files (statement.arguments choice.command.description.statement)

/-- The menus after some turns depend on what their handlers asked for and on
nothing else. -/
theorem stack_foldl_after (menus : Menus Command) (turns : List (Turn τ)) (session : Session τ) :
    (turns.foldl (after menus) session).stack =
      (turns.flatMap requests).foldl (MenuStack.follow menus) session.stack := by
  induction turns generalizing session with
  | nil => rfl
  | cons turn turns ih =>
      rw [List.foldl_cons, ih, List.flatMap_cons, List.foldl_append]
      rfl

end Turn

namespace Session

variable {τ : Type} [Sink τ] {seen : τ → Bytes}

def notFound (statement : Statement) : Text := statement.text ++ ": command not found".toList

/-- What a turn is, given those before it on the line: its command is chosen
from the menu that all their requests have led to, and it runs on the session
that they have left, which no one has asked to end. -/
structure Follows (shell : Shell) (session : Session τ) (before : List (Turn τ)) (turn : Turn τ) :
    Prop where
  chosen : shell.Chosen
    ((before.flatMap Turn.requests).foldl (MenuStack.follow shell.menus) session.stack)
    turn.statement turn.choice
  taken : turn = Turn.take shell (before.foldl (Turn.after shell.menus) session) turn.statement
    turn.choice
  calledOnce : turn.calls.length ≤ 1
  goesOn : before ≠ [] → (before.foldl (Turn.after shell.menus) session).exitRequested = false

/-- Why there are no more turns: the line is at its end, the end of the
session has been asked for, or no command fits the next statement. Whether
the end was asked for is looked at after a turn only. -/
inductive Stops (shell : Shell) (begun : Prop) (session : Session τ) :
    List Statement → Option Text → Session τ → Prop where
  | lineEnd : Stops shell begun session [] none session
  | exit {rest : List Statement} (hbegun : begun) (h : session.exitRequested = true) :
      Stops shell begun session rest none session
  | notFound {statement : Statement} {rest : List Statement}
      (hgoesOn : begun → session.exitRequested = false)
      (h : shell.Unmatched session.stack statement) :
      Stops shell begun session (statement :: rest) (some statement.text)
        { session with sink := Sink.tell session.sink [notFound statement] }

/-- What became of the statements of a line: the turns that were taken and
the statements that were left. -/
structure Account (shell : Shell) (session last : Session τ) (statements : List Statement)
    (progress : Progress) (turns : List (Turn τ)) (rest : List Statement) : Prop where
  inOrder : statements = turns.map Turn.statement ++ rest
  follows : ∀ before turn later, turns = before ++ turn :: later →
    Follows shell session before turn
  executed : progress.executed = turns.flatMap Turn.executed
  calls : last.calls = session.calls ++ turns.flatMap Turn.calls
  stops : Stops shell (turns ≠ []) (turns.foldl (Turn.after shell.menus) session) rest
    progress.missing last

theorem Follows.cons {shell : Shell} {session : Session τ} {first : Turn τ}
    (hfirst : (first.after shell.menus session).exitRequested = false) {before : List (Turn τ)}
    {turn : Turn τ} (h : Follows shell (first.after shell.menus session) before turn) :
    Follows shell session (first :: before) turn := by
  have hstack : ((first :: before).flatMap Turn.requests).foldl (MenuStack.follow shell.menus)
      session.stack = (before.flatMap Turn.requests).foldl (MenuStack.follow shell.menus)
        (first.after shell.menus session).stack := by
    rw [← Turn.stack_foldl_after, ← Turn.stack_foldl_after]
    rfl
  refine ⟨?_, h.taken, h.calledOnce, fun _ => ?_⟩
  · rw [hstack]
    exact h.chosen
  · cases before with
    | nil => exact hfirst
    | cons second before => exact h.goesOn (List.cons_ne_nil second before)

theorem Stops.cons {shell : Shell} {session last : Session τ} {begun : Prop}
    (hgoesOn : ¬ begun → session.exitRequested = false) {rest : List Statement}
    {missing : Option Text} (h : Stops shell begun session rest missing last) :
    Stops shell True session rest missing last := by
  cases h with
  | lineEnd => exact .lineEnd
  | exit _ h => exact .exit trivial h
  | notFound hbegun h =>
      refine .notFound (fun _ => ?_) h
      by_cases hb : begun
      · exact hbegun hb
      · exact hgoesOn hb

theorem Account.cons {shell : Shell} {session last : Session τ} {turn : Turn τ}
    (hfirst : Follows shell session [] turn)
    (hexit : (turn.after shell.menus session).exitRequested = false) {statements : List Statement}
    {progress : Progress} {turns : List (Turn τ)} {rest : List Statement}
    (h : Account shell (turn.after shell.menus session) last statements progress turns rest) :
    Account shell session last (turn.statement :: statements)
      ⟨turn.executed ++ progress.executed, progress.missing⟩ (turn :: turns) rest where
  inOrder := by rw [h.inOrder, List.map_cons, List.cons_append]
  follows := by
    intro before turn' later heq
    obtain ⟨rfl, hhead⟩ | ⟨before, rfl, htail⟩ := List.cons_eq_append_iff.1 heq
    · cases hhead
      exact hfirst
    · exact (h.follows before turn' later htail).cons hexit
  executed := by rw [h.executed, List.flatMap_cons]
  calls := by rw [h.calls, Turn.calls_after, List.flatMap_cons, List.append_assoc]
  stops := by
    have hgoesOn : ¬ turns ≠ [] →
        (turns.foldl (Turn.after shell.menus) (turn.after shell.menus session)).exitRequested =
          false := by
      intro hnil
      rw [Classical.not_not.1 hnil]
      exact hexit
    have hne : (turn :: turns ≠ []) = True := eq_true (List.cons_ne_nil turn turns)
    rw [hne]
    exact h.stops.cons hgoesOn

/-! ## One account -/

theorem Follows.unique {shell : Shell} {session : Session τ} {before : List (Turn τ)}
    {turn turn' : Turn τ} (h : Follows shell session before turn)
    (h' : Follows shell session before turn') (hstatement : turn.statement = turn'.statement) :
    turn = turn' := by
  have hchoice : turn.choice = turn'.choice := by
    apply h.chosen.unique
    rw [hstatement]
    exact h'.chosen
  calc
    turn = Turn.take shell (before.foldl (Turn.after shell.menus) session) turn.statement
        turn.choice := h.taken
    _ = Turn.take shell (before.foldl (Turn.after shell.menus) session) turn'.statement
        turn'.choice := by rw [hstatement, hchoice]
    _ = turn' := h'.taken.symm

theorem Stops.not_follows {shell : Shell} {session last : Session τ} {turns : List (Turn τ)}
    {turn : Turn τ} {rest : List Statement} {missing : Option Text}
    (h : Stops shell (turns ≠ []) (turns.foldl (Turn.after shell.menus) session)
      (turn.statement :: rest) missing last) : ¬ Follows shell session turns turn := by
  intro hfollows
  cases h with
  | exit hbegun hexit =>
      rw [hfollows.goesOn hbegun] at hexit
      cases hexit
  | notFound _ hunmatched =>
      rw [Turn.stack_foldl_after] at hunmatched
      exact hfollows.chosen.not_unmatched hunmatched

theorem Stops.unique {shell : Shell} {begun : Prop} {session last last' : Session τ}
    {rest : List Statement} {missing missing' : Option Text}
    (h : Stops shell begun session rest missing last)
    (h' : Stops shell begun session rest missing' last') : missing' = missing ∧ last' = last := by
  cases h with
  | lineEnd => cases h' <;> exact ⟨rfl, rfl⟩
  | exit hbegun hexit =>
      cases h' with
      | lineEnd => exact ⟨rfl, rfl⟩
      | exit => exact ⟨rfl, rfl⟩
      | notFound hgoesOn =>
          rw [hgoesOn hbegun] at hexit
          cases hexit
  | notFound hgoesOn =>
      cases h' with
      | exit hbegun hexit =>
          rw [hgoesOn hbegun] at hexit
          cases hexit
      | notFound => exact ⟨rfl, rfl⟩

section Unique

variable {shell : Shell} {session last last' : Session τ} {statements : List Statement}
  {progress progress' : Progress} {turns turns' : List (Turn τ)} {rest rest' : List Statement}

/-- By induction on the turns of the other account, from the first to the last:
each is the next one of this account too, which has not stopped before it. -/
theorem Account.exists_more (h : Account shell session last statements progress turns rest)
    (h' : Account shell session last' statements progress' turns' rest') :
    ∃ more, turns = turns' ++ more := by
  suffices hall : ∀ before, before <+: turns' → ∃ more, turns = before ++ more from
    hall turns' List.prefix_rfl
  intro before
  induction before using List.reverseRecOn with
  | nil => exact fun _ => ⟨turns, rfl⟩
  | append_singleton before turn ih =>
      rintro ⟨later, hlater⟩
      rw [List.append_assoc, List.singleton_append] at hlater
      obtain ⟨more, rfl⟩ := ih ⟨turn :: later, hlater⟩
      have hturn : Follows shell session before turn := h'.follows before turn later hlater.symm
      have hinOrder : more.map Turn.statement ++ rest =
          turn.statement :: (later.map Turn.statement ++ rest') := by
        have hboth := h.inOrder.symm.trans h'.inOrder
        rw [← hlater, List.map_append, List.map_append, List.append_assoc, List.append_assoc,
          List.append_right_inj] at hboth
        exact hboth
      cases more with
      | nil =>
          have hstops := h.stops
          rw [List.append_nil, show rest = _ from hinOrder] at hstops
          exact absurd hturn hstops.not_follows
      | cons next more =>
          have hnext : Follows shell session before next := h.follows before next more rfl
          have hsame : next = turn := hnext.unique hturn (List.cons.inj hinOrder).1
          exact ⟨more, by rw [hsame, List.append_assoc, List.singleton_append]⟩

/-- A line has one account, and with it one outcome. -/
theorem Account.unique (h : Account shell session last statements progress turns rest)
    (h' : Account shell session last' statements progress' turns' rest') :
    progress' = progress ∧ last' = last ∧ turns' = turns ∧ rest' = rest := by
  obtain ⟨more, hmore⟩ := h.exists_more h'
  obtain ⟨more', hmore'⟩ := h'.exists_more h
  have hlength := congrArg List.length hmore
  have hlength' := congrArg List.length hmore'
  rw [List.length_append] at hlength hlength'
  have hnil : more = [] := List.length_eq_zero_iff.1 (by omega)
  obtain rfl : turns' = turns := by rw [hmore, hnil, List.append_nil]
  obtain rfl : rest' = rest := List.append_cancel_left (h'.inOrder.symm.trans h.inOrder)
  obtain ⟨hmissing, rfl⟩ := h.stops.unique h'.stops
  have hexecuted : progress'.executed = progress.executed := by rw [h'.executed, h.executed]
  obtain ⟨executed, missing⟩ := progress
  obtain ⟨executed', missing'⟩ := progress'
  cases hexecuted
  cases hmissing
  exact ⟨rfl, rfl, rfl, rfl⟩

end Unique

end Session

end MenuLine
