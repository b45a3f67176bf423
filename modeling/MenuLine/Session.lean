import MenuLine.Shell

/-!
# Sessions

A session evaluates lines, statement by statement. What goes wrong with a
statement is written to the sink of the session and does not stop the
statements after it, except where no command fits. Only a sink that refuses
a line of the session's own ends the evaluation with a failure.
-/

namespace MenuLine

/-- Which command was called, and with what. -/
structure Call where
  menu : MenuId
  position : Nat
  args : List Text
deriving DecidableEq, Repr

/-- What evaluation changes. -/
structure Session (τ : Type) where
  stack : MenuStack
  exitRequested : Bool
  files : FileTree
  sink : τ
  /-- Every call of a handler, in order. -/
  calls : List Call
  /-- What is told to the user apart from the output, line by line. -/
  warnings : List Text
deriving Repr

/-- How far the statements of a line have got: the texts of those that ran to
completion, and the statement that no command fits, if one was met. -/
structure Progress where
  executed : List Text
  missing : Option Text
deriving DecidableEq, Repr

/-- How far evaluation has got, or the failure that has ended it, and the
session that is left. -/
abbrev Evaluation (τ : Type) := Except IoError Progress × Session τ

inductive Outcome where
  /-- The line holds no statement. -/
  | empty
  | parseError (cause : ParseError)
  | ran (progress : Progress)
deriving DecidableEq, Repr

namespace Outcome

def executed : Outcome → List Text
  | ran progress => progress.executed
  | empty | parseError _ => []

end Outcome

namespace Session

variable {τ : Type}

def start (files : FileTree) (sink : τ) : Session τ := ⟨.empty, false, files, sink, [], []⟩

def warn (session : Session τ) (warning : Text) : Session τ :=
  { session with warnings := session.warnings ++ [warning] }

variable [Sink τ]

/-- Writes a line of the session's own. -/
def report (session : Session τ) (line : Text) : Option IoError × Session τ :=
  let (e, sink) := Sink.writeLine session.sink line
  (e, { session with sink := sink })

/-- Takes a new stack of menus, or reports why there is none. -/
def move (session : Session τ) : Except StackError MenuStack → Option IoError × Session τ
  | .ok stack => (none, { session with stack := stack })
  | .error e => session.report e.message

def obey (menus : Menus Command) (session : Session τ) : Request → Option IoError × Session τ
  | .enter menu => session.move (session.stack.push menus menu)
  | .leave => session.move session.stack.pop
  | .exit => (none, { session with exitRequested := true })

/-- Does what a handler asked for, in order. -/
def obeyAll (menus : Menus Command) : Session τ → List Request → Option IoError × Session τ
  | session, [] => (none, session)
  | session, request :: requests =>
    match session.obey menus request with
    | (none, session) => obeyAll menus session requests
    | (some e, session) => (some e, session)

/-- Runs a chosen command through the filters of its statement. -/
def call (shell : Shell) (session : Session τ) (statement : Statement) (choice : Shell.Choice) :
    Option PipelineError × List Request × Session τ :=
  let args := statement.arguments choice.command.description.statement
  let done := Pipeline.execute shell.filters statement.filters statement.output session.files
    session.sink fun files => choice.command.handler files args
  let calls := if done.value.isSome then [⟨choice.menu, choice.position, args⟩] else []
  (done.failure, done.value.getD [],
    { session with files := done.files, sink := done.sink, calls := session.calls ++ calls })

/-- Does what a handler asked for, after its pipeline. -/
def conclude (menus : Menus Command) (progress : Progress) (requests : List Request)
    (session : Session τ) : Evaluation τ :=
  match session.obeyAll menus requests with
  | (none, session) => (.ok progress, session)
  | (some e, session) => (.error e, session)

/-- Runs one statement. A failure of its pipeline is reported. -/
def runStatement (shell : Shell) (session : Session τ) (statement : Statement) : Evaluation τ :=
  match shell.choose session.stack statement with
  | none =>
    match session.report (statement.text ++ ": command not found".toList) with
    | (none, session) => (.ok ⟨[], some statement.text⟩, session)
    | (some e, session) => (.error e, session)
  | some choice =>
    match session.call shell statement choice with
    | (none, requests, session) =>
      conclude shell.menus ⟨[statement.text], none⟩ requests session
    | (some failure, requests, session) =>
      match session.report failure.message with
      | (none, session) => conclude shell.menus ⟨[], none⟩ requests session
      | (some e, session) => (.error e, session)

end Session

namespace Evaluation

variable {τ : Type}

/-- Goes on where every statement so far has been matched and the end has not
been asked for. -/
def andThen (e : Evaluation τ) (next : Session τ → Evaluation τ) : Evaluation τ :=
  match e with
  | (.ok ⟨executed, none⟩, session) =>
    if session.exitRequested then e
    else ((next session).1.map fun p => ⟨executed ++ p.executed, p.missing⟩, (next session).2)
  | stopped => stopped

def done (session : Session τ) : Evaluation τ := (.ok ⟨[], none⟩, session)

theorem andThen_of_exitRequested {executed : List Text} {session : Session τ}
    (h : session.exitRequested = true) (next : Session τ → Evaluation τ) :
    andThen (.ok ⟨executed, none⟩, session) next = (.ok ⟨executed, none⟩, session) :=
  if_pos h

theorem andThen_of_goesOn {executed : List Text} {session : Session τ}
    (h : session.exitRequested = false) (next : Session τ → Evaluation τ) :
    andThen (.ok ⟨executed, none⟩, session) next =
      ((next session).1.map fun p => ⟨executed ++ p.executed, p.missing⟩, (next session).2) := by
  simp [andThen, h]

@[simp] theorem andThen_done (e : Evaluation τ) : e.andThen done = e := by
  rcases e with ⟨_ | ⟨executed, _ | _⟩, session⟩
  · rfl
  · simp [andThen, done, Except.map]
  · rfl

theorem andThen_assoc (e : Evaluation τ) (f g : Session τ → Evaluation τ) :
    (e.andThen f).andThen g = e.andThen fun session => (f session).andThen g := by
  rcases e with ⟨_ | ⟨executed, _ | _⟩, session⟩
  · rfl
  · cases hx : session.exitRequested
    · simp only [andThen, hx]
      rcases f session with ⟨_ | ⟨more, _ | _⟩, last⟩
      · rfl
      · cases hl : last.exitRequested
        · simp only [Except.map, hl, Bool.false_eq_true, if_false]
          split <;> simp
        · simp [Except.map, hl]
      · rfl
    · simp [andThen, hx]
  · rfl

end Evaluation

namespace Session

variable {τ : Type} [Sink τ]

/-- Runs statements in order, up to one that no command fits and up to one
that ends the session. -/
def runAll (shell : Shell) : List Statement → Session τ → Evaluation τ
  | [], session => .done session
  | statement :: statements, session =>
    Evaluation.andThen (session.runStatement shell statement) (runAll shell statements)

@[simp] theorem runAll_nil (shell : Shell) : runAll (τ := τ) shell [] = Evaluation.done := rfl

/-- A line goes on where its first part has left off. -/
theorem runAll_append (shell : Shell) {ss : List Statement} (h : ss ≠ []) (ts : List Statement)
    (session : Session τ) :
    runAll shell (ss ++ ts) session =
      Evaluation.andThen (runAll shell ss session) (runAll shell ts) := by
  induction ss generalizing session with
  | nil => exact absurd rfl h
  | cons s ss ih =>
    cases ss with
    | nil => simp [runAll]
    | cons t ss =>
      have hnext : runAll (τ := τ) shell (t :: ss ++ ts) =
          fun session => Evaluation.andThen (runAll shell (t :: ss) session) (runAll shell ts) :=
        funext fun session => ih (by simp) session
      change Evaluation.andThen (session.runStatement shell s) (runAll shell (t :: ss ++ ts)) = _
      rw [hnext, ← Evaluation.andThen_assoc]
      rfl

def evaluate (shell : Shell) (session : Session τ) (line : Text) :
    Except IoError Outcome × Session τ :=
  match Statement.parse .input line with
  | .error cause =>
    match session.report ("parse error: ".toList ++ cause.message) with
    | (none, session) => (.ok (.parseError cause), session)
    | (some e, session) => (.error e, session)
  | .ok [] => (.ok .empty, session)
  | .ok statements =>
    let (result, session) := runAll shell statements session
    (result.map .ran, session)

end Session

end MenuLine
