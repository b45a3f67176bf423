import MenuLine.Navigation
import MenuLine.Proofs.Grammar
import MenuLine.Proofs.Separation
import MenuLine.Session

/-!
# Lines one after the other

A line that is two lines with a semicolon between them does what the two lines
do one after the other, as far as the first lets the second have its turn:
`Session.evaluate_append_semicolon`. Between two statements evaluation keeps
nothing but the session and the list of what was executed, and it is the same
whatever the sink does.
-/

namespace MenuLine

/-- A line with nothing in it but continuations and the blanks around them. -/
def Text.Wordless (line : Text) : Prop :=
  ∃ cs, scan .input line = (cs, none) ∧ Grammar.Continuations cs

namespace Statement

open Reading

theorem parse_eq_ok_nil_iff {line : Text} : parse .input line = .ok [] ↔ line.Wordless := by
  constructor
  · intro h
    obtain ⟨ts, r, hscan, hsteps, hfinish⟩ := exists_of_parse_eq_ok h
    have hplain := kind_ne_placeholder_of_scan hscan
    have hread : (start.steps ts).bind finish = .ok [] := by
      rw [hsteps]
      exact hfinish
    cases (Grammar.steps_finish_eq_ok_iff hplain []).1 hread with
    | blank hcs => exact ⟨ts, hscan, hcs⟩
  · rintro ⟨cs, hscan, hcs⟩
    have hsteps : start.steps cs = .ok start := hcs.steps []
    rw [parse_of_scan hscan, ofTokens, hsteps]
    rfl

/-- A line that a semicolon may follow does not end in front of a statement. -/
theorem expecting_ne_statement {mode : Mode} {x : Text} {ts : List Token} {r : Reading}
    (hscan : scan mode x = (ts, none)) (hsteps : start.steps ts = .ok r) {us : List Statement}
    (hsemicolon : parse mode (x ++ [';']) = .ok us) : r.expecting ≠ .statement := by
  rw [parse_of_scan (scan_append hscan [])] at hsemicolon
  exact expecting_ne_of_ofTokens rfl hsteps hsemicolon

/-- A line of user input without statements ends in front of one. -/
theorem ne_nil_of_parse {x : Text} {ts : List Token} {r : Reading} {ss : List Statement}
    (hx : parse .input x = .ok ss) (hscan : scan .input x = (ts, none))
    (hsteps : start.steps ts = .ok r) (hr : r.expecting ≠ .statement) : ss ≠ [] := by
  rintro rfl
  obtain ⟨cs, hcontinued, hcs⟩ := parse_eq_ok_nil_iff.1 hx
  have hstart : start.steps cs = .ok start := hcs.steps []
  rw [hscan] at hcontinued
  cases hcontinued
  rw [hsteps] at hstart
  cases hstart
  exact hr rfl

theorem parse_semicolon {x : Text} {ss us : List Statement} (hx : parse .input x = .ok ss)
    (hsemicolon : parse .input (x ++ [';']) = .ok us) :
    ss ≠ [] ∧ ∀ y, parse .input (x ++ ';' :: y) = (parse .input y).map (ss ++ ·) := by
  obtain ⟨ts, r, hscan, hsteps, hfinish⟩ := exists_of_parse_eq_ok hx
  have hr := expecting_ne_statement hscan hsteps hsemicolon
  refine ⟨ne_nil_of_parse hx hscan hsteps hr, fun y => ?_⟩
  rw [parse_append hscan hsteps hr y, hfinish]
  rfl

end Statement

namespace Outcome

/-- The statement that no command fits, if one was met. -/
def missing : Outcome → Option Text
  | ran progress => progress.missing
  | empty | parseError _ => none

/-- What an outcome is behind a line that was executed. -/
def behind (executed : List Text) (outcome : Outcome) : Outcome :=
  .ran ⟨executed ++ outcome.executed, outcome.missing⟩

end Outcome

namespace Session

variable {τ : Type} [Sink τ]

/-- Evaluates a line and then another, unless the first has met a statement
that no command fits, has asked for the end or could not be finished because
of the sink. -/
def evaluateBoth (shell : Shell) (session : Session τ) (x y : Text) :
    Except IoError Outcome × Session τ :=
  match session.evaluate shell x with
  | (.ok (.ran ⟨executed, none⟩), after) =>
    if after.exitRequested then (.ok (.ran ⟨executed, none⟩), after)
    else
      ((after.evaluate shell y).1.map (Outcome.behind executed), (after.evaluate shell y).2)
  | stopped => stopped

theorem evaluate_of_parse (shell : Shell) (session : Session τ) {line : Text}
    {ss : List Statement} (hparse : Statement.parse .input line = .ok ss) (hss : ss ≠ []) :
    session.evaluate shell line =
      ((runAll shell ss session).1.map .ran, (runAll shell ss session).2) := by
  cases ss with
  | nil => exact absurd rfl hss
  | cons s ss => simp only [evaluate, hparse]

/-- Behind a line that was executed it makes no difference whether a line is
empty. -/
theorem evaluate_behind (shell : Shell) (session : Session τ) {line : Text}
    {ss : List Statement} (hparse : Statement.parse .input line = .ok ss)
    (executed : List Text) :
    ((session.evaluate shell line).1.map (Outcome.behind executed),
        (session.evaluate shell line).2) =
      (((runAll shell ss session).1.map fun p => ⟨executed ++ p.executed, p.missing⟩).map .ran,
        (runAll shell ss session).2) := by
  cases ss with
  | nil => simp [evaluate, hparse, Evaluation.done, Except.map, Outcome.behind, Outcome.executed,
      Outcome.missing]
  | cons s ss =>
      rw [evaluate_of_parse shell session hparse (List.cons_ne_nil s ss)]
      rcases runAll shell (s :: ss) session with ⟨_ | progress, last⟩
      · rfl
      · rfl

/-- A semicolon between two lines is the first line and then the second: what
is left of the session, sink and calls included, what was executed, and the
statement or the failure that has stopped the evaluation are the same. -/
theorem evaluate_append_semicolon (shell : Shell) (session : Session τ) {x y : Text}
    {ss us ts : List Statement} (hx : Statement.parse .input x = .ok ss)
    (hsemicolon : Statement.parse .input (x ++ [';']) = .ok us)
    (hy : Statement.parse .input y = .ok ts) :
    session.evaluate shell (x ++ ';' :: y) = session.evaluateBoth shell x y := by
  obtain ⟨hss, happend⟩ := Statement.parse_semicolon hx hsemicolon
  have hboth : Statement.parse .input (x ++ ';' :: y) = .ok (ss ++ ts) := by
    rw [happend, hy]
    rfl
  have hne : ss ++ ts ≠ [] := by simp [hss]
  rw [evaluate_of_parse shell session hboth hne, runAll_append shell hss, evaluateBoth,
    evaluate_of_parse shell session hx hss]
  rcases runAll shell ss session with ⟨_ | ⟨executed, _ | missing⟩, after⟩
  · rfl
  · cases hexit : after.exitRequested with
    | true => simp [Evaluation.andThen, Except.map, hexit]
    | false =>
        simp only [Evaluation.andThen, Except.map, hexit, Bool.false_eq_true, if_false]
        exact (evaluate_behind shell after hy executed).symm
  · rfl

/-- A command that leads to another menu, then one that is found only there and
asks for the end. -/
theorem evaluate_append_semicolon_two_menus :
    let go : Statement := ⟨[.literal "go".toList], [], none⟩
    let stop : Statement := ⟨[.literal "stop".toList], [], none⟩
    let shell : Shell :=
      { Shell.empty .default with
        menus := ⟨[⟨"a".toList, [⟨⟨"go".toList, go⟩, Navigation.enter "b".toList⟩]⟩,
          ⟨"b".toList, [⟨⟨"stop".toList, stop⟩, Navigation.exit⟩]⟩]⟩ }
    let session : Session Collector := .start ⟨[], []⟩ .empty
    Statement.parse .input "go".toList = .ok [go] ∧
      Statement.parse .input "go;".toList = .ok [go] ∧
      Statement.parse .input " stop; go".toList = .ok [stop, go] ∧
      session.evaluate shell "go; stop; go".toList =
        session.evaluateBoth shell "go".toList " stop; go".toList := by
  intro go stop shell session
  have hx : Statement.parse .input "go".toList = .ok [go] := by cbv
  have hsemicolon : Statement.parse .input ("go".toList ++ [';']) = .ok [go] := by cbv
  have hy : Statement.parse .input " stop; go".toList = .ok [stop, go] := by cbv
  exact ⟨hx, hsemicolon, hy, evaluate_append_semicolon shell session hx hsemicolon hy⟩

end Session

end MenuLine
