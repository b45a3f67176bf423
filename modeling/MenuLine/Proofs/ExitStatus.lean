import Mathlib
import MenuLine.Proofs.Regularity
import MenuLine.Proofs.Selection
import MenuLine.Proofs.Sequencing
import MenuLine.Run

/-!
# When a line succeeds

A single line succeeds if a command fits every statement that takes its turn.
What becomes of the pipelines is told, but it makes no difference:
`Run.line_eq_success_iff`. Whether all of them came to a good end is seen from
how many statements were executed.
-/

namespace MenuLine

/-- What counts as executed of some statements, each with the failure of its
pipeline. -/
def finished (course : List (Statement × Option PipelineError)) : List Text :=
  (course.filter (·.2.isNone)).map (·.1.text)

theorem finished_append (xs ys : List (Statement × Option PipelineError)) :
    finished (xs ++ ys) = finished xs ++ finished ys := by
  rw [finished, List.filter_append, List.map_append, finished, finished]

/-- Only a failure keeps a statement from being executed. -/
theorem length_finished_eq_iff {course : List (Statement × Option PipelineError)} :
    (finished course).length = course.length ↔ ∀ turn ∈ course, turn.2 = none := by
  rw [finished, List.length_map, List.length_filter_eq_length_iff]
  simp only [Option.isNone_iff_eq_none]

namespace Evaluation

variable {τ : Type} {last : Session τ}

theorem behind_eq_ok_iff {begun executed : List Text} {rest : Evaluation τ} :
    ((rest.1.map fun p => ⟨begun ++ p.executed, p.missing⟩, rest.2) : Evaluation τ) =
        (.ok ⟨executed, none⟩, last) ↔
      ∃ more, rest = (.ok ⟨more, none⟩, last) ∧ executed = begun ++ more := by
  rcases rest with ⟨e | ⟨more, _ | missing⟩, final⟩
  · simp [Except.map]
  · constructor
    · intro h
      cases h
      exact ⟨more, rfl, rfl⟩
    · rintro ⟨_, hrest, rfl⟩
      cases hrest
      rfl
  · simp [Except.map]

theorem andThen_eq_ok_iff {first : Evaluation τ} {next : Session τ → Evaluation τ}
    {executed : List Text} :
    first.andThen next = (.ok ⟨executed, none⟩, last) ↔
      ∃ begun after, first = (.ok ⟨begun, none⟩, after) ∧
        (after.exitRequested = true ∧ executed = begun ∧ last = after ∨
          after.exitRequested = false ∧ ∃ more, next after = (.ok ⟨more, none⟩, last) ∧
            executed = begun ++ more) := by
  rcases first with ⟨e | ⟨begun, _ | missing⟩, after⟩
  · simp [andThen]
  · constructor
    · intro h
      refine ⟨begun, after, rfl, ?_⟩
      cases hexit : after.exitRequested with
      | true =>
          rw [andThen_of_exitRequested hexit] at h
          cases h
          exact .inl ⟨rfl, rfl, rfl⟩
      | false =>
          rw [andThen_of_goesOn hexit, behind_eq_ok_iff] at h
          exact .inr ⟨rfl, h⟩
    · rintro ⟨_, _, hbegun, ⟨hexit, rfl, rfl⟩ | ⟨hexit, hmore⟩⟩
      · cases hbegun
        exact andThen_of_exitRequested hexit next
      · cases hbegun
        rw [andThen_of_goesOn hexit, behind_eq_ok_iff]
        exact hmore
  · simp [andThen]

end Evaluation

namespace Session

variable {τ : Type} [Sink τ]

/-- A command fits a statement, its pipeline ends, and the sink takes what there
is to be told of that and of what the handler asked for. -/
inductive Carries (shell : Shell) (session : Session τ) (statement : Statement) :
    Option PipelineError → Session τ → Prop where
  | smoothly {choice requests ran last}
      (hchosen : shell.Chosen session.stack statement choice)
      (hran : session.call shell statement choice = (none, requests, ran))
      (hobeyed : ran.obeyAll shell.menus requests = (none, last)) :
      Carries shell session statement none last
  | failing {choice failure requests ran told last}
      (hchosen : shell.Chosen session.stack statement choice)
      (hran : session.call shell statement choice = (some failure, requests, ran))
      (htold : ran.report failure.message = (none, told))
      (hobeyed : told.obeyAll shell.menus requests = (none, last)) :
      Carries shell session statement (some failure) last

/-- The statements of a line that take their turns, each with the failure of its
pipeline: all of them, or those up to the first behind which the end has been
asked for. -/
inductive Course (shell : Shell) : Session τ → List Statement →
    List (Statement × Option PipelineError) → Session τ → Prop where
  | lineEnd {session} : Course shell session [] [] session
  | exit {session statement rest failure last} (h : Carries shell session statement failure last)
      (hexit : last.exitRequested = true) :
      Course shell session (statement :: rest) [(statement, failure)] last
  | next {session statement rest failure after course last}
      (h : Carries shell session statement failure after) (hexit : after.exitRequested = false)
      (hrest : Course shell after rest course last) :
      Course shell session (statement :: rest) ((statement, failure) :: course) last

variable {shell : Shell} {session last : Session τ}

theorem conclude_eq_ok_iff {menus : Menus Command} {progress result : Progress}
    {requests : List Request} :
    session.conclude menus progress requests = (.ok result, last) ↔
      session.obeyAll menus requests = (none, last) ∧ result = progress := by
  rw [conclude_eq_unlessFailed, unlessFailed_eq_ok_iff]
  constructor
  · rintro ⟨_, hobeyed, h⟩
    cases h
    exact ⟨hobeyed, rfl⟩
  · rintro ⟨hobeyed, rfl⟩
    exact ⟨last, hobeyed, rfl⟩

theorem runStatement_eq_ok_iff {statement : Statement} {executed : List Text} :
    session.runStatement shell statement = (.ok ⟨executed, none⟩, last) ↔
      ∃ failure, Carries shell session statement failure last ∧
        executed = finished [(statement, failure)] := by
  constructor
  · intro h
    cases hchoose : shell.choose session.stack statement with
    | none =>
        rw [runStatement_eq_reporting hchoose, reporting, unlessFailed_eq_ok_iff] at h
        obtain ⟨told, -, hfound⟩ := h
        cases hfound
    | some choice =>
        rw [runStatement_eq_settle hchoose] at h
        rcases hcall : session.call shell statement choice with ⟨_ | failure, requests, ran⟩
        · rw [hcall, settle, conclude_eq_ok_iff] at h
          obtain ⟨hobeyed, hexecuted⟩ := h
          cases hexecuted
          exact ⟨none, .smoothly (Shell.choose_eq_some_iff.1 hchoose) hcall hobeyed, rfl⟩
        · rw [hcall, settle, reporting, unlessFailed_eq_ok_iff] at h
          obtain ⟨told, htold, h⟩ := h
          obtain ⟨hobeyed, hexecuted⟩ := conclude_eq_ok_iff.1 h
          cases hexecuted
          have hchosen := Shell.choose_eq_some_iff.1 hchoose
          exact ⟨some failure, .failing hchosen hcall htold hobeyed, rfl⟩
  · rintro ⟨failure, hcarries, rfl⟩
    cases hcarries with
    | smoothly hchosen hran hobeyed =>
        rw [runStatement_eq_settle (Shell.choose_eq_some_iff.2 hchosen), hran, settle,
          conclude_eq_ok_iff]
        exact ⟨hobeyed, rfl⟩
    | failing hchosen hran htold hobeyed =>
        rw [runStatement_eq_settle (Shell.choose_eq_some_iff.2 hchosen), hran, settle, reporting,
          unlessFailed_eq_ok_iff]
        exact ⟨_, htold, conclude_eq_ok_iff.2 ⟨hobeyed, rfl⟩⟩

theorem runAll_eq_ok_iff {statements : List Statement} {executed : List Text} :
    runAll shell statements session = (.ok ⟨executed, none⟩, last) ↔
      ∃ course, Course shell session statements course last ∧
        executed = finished course := by
  induction statements generalizing session executed with
  | nil =>
      constructor
      · intro h
        cases h
        exact ⟨[], .lineEnd, rfl⟩
      · rintro ⟨course, hcourse, rfl⟩
        cases hcourse
        rfl
  | cons statement statements ih =>
      rw [runAll, Evaluation.andThen_eq_ok_iff]
      constructor
      · rintro ⟨begun, after, hrun, h⟩
        obtain ⟨failure, hcarries, rfl⟩ := runStatement_eq_ok_iff.1 hrun
        obtain ⟨hexit, rfl, rfl⟩ | ⟨hexit, more, hmore, rfl⟩ := h
        · exact ⟨_, .exit hcarries hexit, rfl⟩
        · obtain ⟨course, hcourse, rfl⟩ := ih.1 hmore
          exact ⟨_, .next hcarries hexit hcourse, (finished_append _ _).symm⟩
      · rintro ⟨course, hcourse, rfl⟩
        cases hcourse with
        | exit hcarries hexit =>
            exact ⟨_, last, runStatement_eq_ok_iff.2 ⟨_, hcarries, rfl⟩,
              .inl ⟨hexit, rfl, rfl⟩⟩
        | next hcarries hexit hrest =>
            exact ⟨_, _, runStatement_eq_ok_iff.2 ⟨_, hcarries, rfl⟩,
              .inr ⟨hexit, _, ih.2 ⟨_, hrest, rfl⟩, finished_append [_] _⟩⟩

theorem exists_outcome {line : Text} {statements : List Statement}
    (hparse : Statement.parse .input line = .ok statements) {executed : List Text}
    (hrun : runAll shell statements session = (.ok ⟨executed, none⟩, last)) :
    ∃ outcome, session.evaluate shell line = (.ok outcome, last) ∧ outcome.executed = executed := by
  cases statements with
  | nil =>
      cases hrun
      exact ⟨.empty, by rw [evaluate, hparse], rfl⟩
  | cons statement statements =>
      refine ⟨.ran ⟨executed, none⟩, ?_, rfl⟩
      rw [evaluate_of_parse shell session hparse (List.cons_ne_nil _ _), hrun]
      rfl

end Session

namespace Run

open Session

variable {τ : Type} [Sink τ] {shell : Shell} {session last : Session τ} {text : Text}

/-- A line that cannot be read fails. -/
theorem line_ne_success_of_error {cause : ParseError}
    (h : Statement.parse .input text = .error cause) :
    line shell session text ≠ (.success, last) := by
  rw [line, evaluate, h]
  dsimp only
  rcases session.report ("parse error: ".toList ++ cause.message) with ⟨_ | e, after⟩
  · simp
  · simp

theorem line_eq_success_iff_of_parse {statements : List Statement}
    (h : Statement.parse .input text = .ok statements) :
    line shell session text = (.success, last) ↔
      ∃ executed, runAll shell statements session = (.ok ⟨executed, none⟩, last) := by
  cases statements with
  | nil =>
      rw [line, evaluate, h]
      constructor
      · intro h
        cases h
        exact ⟨[], rfl⟩
      · rintro ⟨_, h⟩
        cases h
        rfl
  | cons statement statements =>
      rw [line, evaluate_of_parse shell session h (List.cons_ne_nil _ _)]
      rcases runAll shell (statement :: statements) session with ⟨e | ⟨executed, missing⟩, after⟩
      · simp [Except.map]
      · cases missing <;> simp [Except.map]

/-- A line succeeds exactly if it can be read and all statements are carried out
that take their turns, whatever becomes of their pipelines. None of these has
failed if as many statements were executed as took their turns. -/
theorem line_eq_success_iff :
    line shell session text = (.success, last) ↔
      ∃ statements course outcome, Statement.parse .input text = .ok statements ∧
        Course shell session statements course last ∧
        session.evaluate shell text = (.ok outcome, last) ∧
        outcome.executed = finished course ∧
        (outcome.executed.length = course.length ↔ ∀ turn ∈ course, turn.2 = none) := by
  constructor
  · intro h
    cases hparse : Statement.parse .input text with
    | error cause => exact absurd h (line_ne_success_of_error hparse)
    | ok statements =>
        obtain ⟨executed, hrun⟩ := (line_eq_success_iff_of_parse hparse).1 h
        obtain ⟨course, hcourse, rfl⟩ := runAll_eq_ok_iff.1 hrun
        obtain ⟨outcome, heval, hexecuted⟩ := exists_outcome hparse hrun
        refine ⟨statements, course, outcome, rfl, hcourse, heval, hexecuted, ?_⟩
        rw [hexecuted]
        exact length_finished_eq_iff
  · rintro ⟨statements, course, outcome, hparse, hcourse, -, -, -⟩
    apply (line_eq_success_iff_of_parse hparse).2
    exact ⟨finished course, runAll_eq_ok_iff.2 ⟨course, hcourse, rfl⟩⟩

/-- A filter that is not known: the program succeeds, and the command in front
of the filter is never called. -/
theorem program_success_of_unknown_filter :
    let words := ["-c", "names; hello Todd | nope"].map String.toList
    let ended := program words ⟨none, none, none⟩ ⟨[], []⟩ [] Collector.empty
    Statement.parse .input "names; hello Todd | nope".toList =
        .ok [⟨[.literal "names".toList], [], none⟩,
          ⟨["hello", "Todd"].map fun w => .literal w.toList, [⟨"nope".toList, []⟩], none⟩] ∧
      ended.1 = .success ∧ ended.2.calls = [⟨0, 1, []⟩] ∧
      ended.2.sink.bytes = Text.bytes "nope is not a valid filter\n".toList := by
  refine ⟨by cbv, ?_, ?_, ?_⟩
  · decide +kernel
  · decide +kernel
  · decide +kernel

end Run

end MenuLine
