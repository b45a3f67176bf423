import MenuLine.Session

/-!
# Regular changes of a session

Evaluation pays no regard to what has been warned of and warns of nothing
itself, and whoever has asked for the end of a session has done so for good:
`Session.regular_evaluate`. Once the end has been asked for, a line comes to its
first statement and no further.
-/

namespace MenuLine

namespace Session

variable {τ : Type}

/-- A session without what it has warned of. -/
def unwarned (session : Session τ) : Session τ := { session with warnings := [] }

@[simp] theorem exitRequested_unwarned (session : Session τ) :
    session.unwarned.exitRequested = session.exitRequested := rfl

@[simp] theorem unwarned_warn (session : Session τ) (warning : Text) :
    (session.warn warning).unwarned = session.unwarned := rfl

/-- A change of a session that pays no regard to warnings and gives none, and
that takes no request to end the session back. -/
structure Regular (change : Session τ → α × Session τ) : Prop where
  heedless : ∀ session, change session.unwarned =
    ((change session).1, (change session).2.unwarned)
  lasting : ∀ session, session.exitRequested = true → (change session).2.exitRequested = true

theorem regular_pure (a : α) : Regular fun session : Session τ => (a, session) where
  heedless _ := rfl
  lasting _ h := h

theorem Regular.bind {change : Session τ → α × Session τ} (h : Regular change)
    (next : α → Session τ → β × Session τ) (hnext : ∀ a, Regular (next a))
    {whole : Session τ → β × Session τ}
    (hwhole : ∀ session, whole session = next (change session).1 (change session).2) :
    Regular whole where
  heedless session := by
    rw [hwhole, hwhole, h.heedless]
    exact (hnext _).heedless _
  lasting session hexit := by
    rw [hwhole]
    exact (hnext _).lasting _ (h.lasting session hexit)

theorem Regular.andThen {change next : Session τ → Evaluation τ} (h : Regular change)
    (hnext : Regular next) : Regular fun session => Evaluation.andThen (change session) next := by
  apply h.bind fun result session => Evaluation.andThen (result, session) next
  · rintro (e | ⟨executed, _ | missing⟩)
    · exact regular_pure _
    · refine ⟨fun session => ?_, fun session hexit => ?_⟩
      · cases hexit : session.exitRequested with
        | true =>
            have hunwarned : session.unwarned.exitRequested = true := hexit
            rw [Evaluation.andThen_of_exitRequested hexit,
              Evaluation.andThen_of_exitRequested hunwarned]
        | false =>
            have hunwarned : session.unwarned.exitRequested = false := hexit
            rw [Evaluation.andThen_of_goesOn hexit, Evaluation.andThen_of_goesOn hunwarned,
              hnext.heedless]
      · rw [Evaluation.andThen_of_exitRequested hexit]
        exact hexit
    · exact regular_pure _
  · exact fun _ => rfl

/-- Goes on unless the sink has failed. -/
def unlessFailed (told : Option IoError × Session τ) (failed : IoError → α)
    (next : Session τ → α × Session τ) : α × Session τ :=
  match told with
  | (none, session) => next session
  | (some e, session) => (failed e, session)

theorem Regular.unlessFailed {change : Session τ → Option IoError × Session τ}
    {next : Session τ → α × Session τ} (h : Regular change) (failed : IoError → α)
    (hnext : Regular next) :
    Regular fun session => Session.unlessFailed (change session) failed next := by
  apply h.bind fun e session => Session.unlessFailed (e, session) failed next
  · rintro (_ | e)
    · exact hnext
    · exact regular_pure (failed e)
  · exact fun _ => rfl

theorem unlessFailed_eq_ok_iff {last : Session τ} {told : Option IoError × Session τ}
    {next : Session τ → Except IoError α × Session τ} {result : α} :
    unlessFailed told .error next = (.ok result, last) ↔
      ∃ after, told = (none, after) ∧ next after = (.ok result, last) := by
  obtain ⟨_ | e, after⟩ := told
  · constructor
    · intro h
      exact ⟨after, rfl, h⟩
    · rintro ⟨_, htold, h⟩
      cases htold
      exact h
  · constructor
    · intro h
      cases h
    · rintro ⟨_, htold, -⟩
      cases htold

variable [Sink τ]

theorem regular_report (line : Text) : Regular fun session : Session τ => session.report line where
  heedless _ := rfl
  lasting _ h := h

/-- Reports a line and goes on if the sink has taken it. -/
def reporting (line : Text) (next : Session τ → Except IoError α × Session τ)
    (session : Session τ) : Except IoError α × Session τ :=
  unlessFailed (session.report line) .error next

theorem Regular.reporting {next : Session τ → Except IoError α × Session τ} (h : Regular next)
    (line : Text) : Regular (reporting line next) := by
  unfold Session.reporting
  exact (regular_report line).unlessFailed Except.error h

theorem regular_move (result : Except StackError MenuStack) :
    Regular fun session : Session τ => session.move result := by
  cases result with
  | ok stack => exact ⟨fun _ => rfl, fun _ h => h⟩
  | error e => exact regular_report e.message

theorem regular_obey (menus : Menus Command) (request : Request) :
    Regular fun session : Session τ => session.obey menus request where
  heedless session := by
    cases request with
    | enter menu => exact (regular_move (session.stack.push menus menu)).heedless session
    | leave => exact (regular_move session.stack.pop).heedless session
    | exit => rfl
  lasting session h := by
    cases request with
    | enter menu => exact (regular_move (session.stack.push menus menu)).lasting session h
    | leave => exact (regular_move session.stack.pop).lasting session h
    | exit => rfl

theorem obeyAll_cons (menus : Menus Command) (session : Session τ) (request : Request)
    (requests : List Request) :
    session.obeyAll menus (request :: requests) =
      unlessFailed (session.obey menus request) some (·.obeyAll menus requests) := by
  rw [obeyAll]
  rcases session.obey menus request with ⟨_ | e, after⟩ <;> rfl

theorem regular_obeyAll (menus : Menus Command) (requests : List Request) :
    Regular fun session : Session τ => session.obeyAll menus requests := by
  induction requests with
  | nil => exact regular_pure none
  | cons request requests ih =>
      simp only [obeyAll_cons]
      exact (regular_obey menus request).unlessFailed some ih

theorem conclude_eq_unlessFailed (menus : Menus Command) (progress : Progress)
    (requests : List Request) (session : Session τ) :
    session.conclude menus progress requests =
      unlessFailed (session.obeyAll menus requests) .error (.ok progress, ·) := by
  rw [conclude]
  rcases session.obeyAll menus requests with ⟨_ | e, after⟩ <;> rfl

theorem regular_conclude (menus : Menus Command) (progress : Progress) (requests : List Request) :
    Regular fun session : Session τ => session.conclude menus progress requests := by
  simp only [conclude_eq_unlessFailed]
  exact (regular_obeyAll menus requests).unlessFailed Except.error (regular_pure _)

/-- What follows the pipeline of a statement: its failure is reported, and then
its handler is obeyed. -/
def settle (menus : Menus Command) (statement : Statement) (failure : Option PipelineError)
    (requests : List Request) : Session τ → Evaluation τ :=
  match failure with
  | none => conclude menus ⟨[statement.text], none⟩ requests
  | some failure => reporting failure.message (conclude menus ⟨[], none⟩ requests)

theorem regular_settle (menus : Menus Command) (statement : Statement)
    (failure : Option PipelineError) (requests : List Request) :
    Regular (settle (τ := τ) menus statement failure requests) := by
  cases failure with
  | none => exact regular_conclude _ _ _
  | some failure => exact (regular_conclude _ _ _).reporting _

variable {shell : Shell} {session : Session τ} {statement : Statement}

theorem runStatement_eq_reporting (h : shell.choose session.stack statement = none) :
    session.runStatement shell statement =
      reporting (statement.text ++ ": command not found".toList)
        (fun session => (.ok ⟨[], some statement.text⟩, session)) session := by
  rw [runStatement, h]
  rfl

theorem runStatement_eq_settle {choice : Shell.Choice}
    (h : shell.choose session.stack statement = some choice) :
    session.runStatement shell statement =
      settle shell.menus statement (session.call shell statement choice).1
        (session.call shell statement choice).2.1 (session.call shell statement choice).2.2 := by
  rw [runStatement, h]
  dsimp only
  rcases session.call shell statement choice with ⟨_ | failure, requests, after⟩ <;> rfl

variable (shell)

theorem regular_runStatement (statement : Statement) :
    Regular fun session : Session τ => session.runStatement shell statement where
  heedless session := by
    cases hchoose : shell.choose session.stack statement with
    | none =>
        have hunwarned : shell.choose session.unwarned.stack statement = none := hchoose
        rw [runStatement_eq_reporting hchoose, runStatement_eq_reporting hunwarned]
        exact ((regular_pure _).reporting _).heedless session
    | some choice =>
        have hunwarned : shell.choose session.unwarned.stack statement = some choice := hchoose
        rw [runStatement_eq_settle hchoose, runStatement_eq_settle hunwarned]
        exact (regular_settle shell.menus statement _ _).heedless
          (session.call shell statement choice).2.2
  lasting session h := by
    cases hchoose : shell.choose session.stack statement with
    | none =>
        rw [runStatement_eq_reporting hchoose]
        exact ((regular_pure _).reporting _).lasting session h
    | some choice =>
        rw [runStatement_eq_settle hchoose]
        apply (regular_settle _ _ _ _).lasting
        exact h

theorem regular_runAll (statements : List Statement) :
    Regular fun session : Session τ => runAll shell statements session := by
  induction statements with
  | nil => exact regular_pure _
  | cons statement statements ih => exact (regular_runStatement shell statement).andThen ih

theorem regular_evaluate (line : Text) :
    Regular fun session : Session τ => session.evaluate shell line := by
  unfold evaluate
  cases Statement.parse .input line with
  | error cause => exact (regular_pure (Except.ok (Outcome.parseError cause))).reporting _
  | ok statements =>
      cases statements with
      | nil => exact regular_pure _
      | cons statement statements =>
          apply (regular_runAll shell (statement :: statements)).bind
            fun result session => (result.map Outcome.ran, session)
          · exact fun _ => regular_pure _
          · exact fun _ => rfl

/-- Once the end has been asked for, one more statement is run at the most. -/
theorem runAll_of_exitRequested {session : Session τ} (h : session.exitRequested = true)
    (statement : Statement) (statements : List Statement) :
    runAll shell (statement :: statements) session = session.runStatement shell statement := by
  have hexit := (regular_runStatement shell statement).lasting session h
  rw [runAll]
  rcases hrun : session.runStatement shell statement with ⟨_ | ⟨executed, _ | missing⟩, after⟩
  · rfl
  · rw [hrun] at hexit
    exact Evaluation.andThen_of_exitRequested hexit _
  · rfl

end Session

end MenuLine
