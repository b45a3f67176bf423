import Mathlib
import MenuLine.Navigation
import MenuLine.Proofs.Regularity
import MenuLine.Script

/-!
# The scripts of the start

Where a line stands matters only to the warnings about it, so a script does
what its lines do one after the other: `Script.effect_runFrom`. Two scripts are
therefore one, as far as the first lets the second begin. A request to end the
session that the settings make comes too late for that, and one line of the
script of the home folder is evaluated all the same: `Script.effect_startUp`.
-/

namespace MenuLine

namespace Script

/-- The lines of a script that are evaluated. -/
def meant (lines : List Text) : List Text := (lines.map Text.trim).filter (! isComment ·)

theorem meant_append (xs ys : List Text) : meant (xs ++ ys) = meant xs ++ meant ys := by
  rw [meant, List.map_append, List.filter_append, meant, meant]

theorem meant_cons_comment {line : Text} (h : isComment line.trim = true) (lines : List Text) :
    meant (line :: lines) = meant lines := by
  rw [meant, List.map_cons, List.filter_cons_of_neg (by simp [h]), meant]

theorem meant_cons {line : Text} (h : ¬ isComment line.trim = true) (lines : List Text) :
    meant (line :: lines) = line.trim :: meant lines := by
  rw [meant, List.map_cons, List.filter_cons_of_pos (by simp [h]), meant]

variable {τ : Type}

/-- What a script comes to, apart from what is warned of. -/
def effect (result : Option IoError × Session τ) : Option IoError × Session τ :=
  (result.1, result.2.unwarned)

/-- Goes on unless the sink has failed or the end has been asked for. -/
def goOn (result : Option IoError × Session τ) (next : Session τ → Option IoError × Session τ) :
    Option IoError × Session τ :=
  match result with
  | (none, session) => if session.exitRequested then (none, session) else next session
  | stopped => stopped

theorem goOn_of_exitRequested {result : Option IoError × Session τ}
    (h : result.2.exitRequested = true) (next : Session τ → Option IoError × Session τ) :
    goOn result next = result := by
  obtain ⟨_ | e, session⟩ := result
  · exact if_pos h
  · rfl

theorem goOn_congr {f g : Session τ → Option IoError × Session τ}
    (h : ∀ session, session.exitRequested = false → f session = g session)
    (result : Option IoError × Session τ) : goOn result f = goOn result g := by
  obtain ⟨_ | e, session⟩ := result
  · cases hexit : session.exitRequested with
    | true => rw [goOn, goOn, if_pos hexit, if_pos hexit]
    | false => simp [goOn, hexit, h session hexit]
  · rfl

theorem goOn_assoc (result : Option IoError × Session τ)
    (f g : Session τ → Option IoError × Session τ) :
    goOn (goOn result f) g = goOn result fun session => goOn (f session) g := by
  obtain ⟨_ | e, session⟩ := result
  · cases hexit : session.exitRequested with
    | true => simp [goOn, hexit]
    | false => simp [goOn, hexit]
  · rfl

variable [Sink τ] (shell : Shell)

/-- Evaluates a line, whatever becomes of it. -/
def perform (line : Text) (session : Session τ) : Option IoError × Session τ :=
  match session.evaluate shell line with
  | (.error e, session) => (some e, session)
  | (.ok _, session) => (none, session)

def performAll : List Text → Session τ → Option IoError × Session τ
  | [], session => (none, session)
  | line :: lines, session => goOn (perform shell line session) (performAll lines)

@[simp] theorem performAll_nil (session : Session τ) :
    performAll shell [] session = (none, session) := rfl

theorem performAll_cons (line : Text) (lines : List Text) (session : Session τ) :
    performAll shell (line :: lines) session =
      goOn (perform shell line session) (performAll shell lines) := rfl

theorem regular_perform (line : Text) : Session.Regular (perform (τ := τ) shell line) := by
  apply (Session.regular_evaluate shell line).bind fun result session =>
    (match result with | .error e => some e | .ok _ => none, session)
  · exact fun _ => Session.regular_pure _
  · intro session
    rw [perform]
    rcases session.evaluate shell line with ⟨e | outcome, after⟩ <;> rfl

theorem performAll_append (xs ys : List Text) {session : Session τ}
    (h : session.exitRequested = false) :
    performAll shell (xs ++ ys) session =
      goOn (performAll shell xs session) (performAll shell ys) := by
  induction xs generalizing session with
  | nil => simp [goOn, h]
  | cons line lines ih =>
      rw [List.cons_append, performAll_cons, performAll_cons, goOn_assoc]
      apply goOn_congr
      intro after hafter
      exact ih hafter

/-- A script does no more than its lines do, and where they stand makes no
difference. -/
theorem effect_runFrom (source : Text) (session : Session τ) (number : Nat) (lines : List Text) :
    effect (runFrom shell source session number lines) =
      performAll shell (meant lines) session.unwarned := by
  induction lines generalizing session number with
  | nil => rfl
  | cons line lines ih =>
      by_cases hcomment : isComment line.trim = true
      · rw [runFrom, if_pos hcomment, meant_cons_comment hcomment]
        exact ih session (number + 1)
      · rw [runFrom, if_neg hcomment, meant_cons hcomment, performAll_cons,
          (regular_perform shell line.trim).heedless, perform]
        rcases session.evaluate shell line.trim with ⟨e | outcome, after⟩
        · rfl
        · -- With a warning about the line or without one, the rest is the same.
          have hrest (warned : Session τ) (h : warned.unwarned = after.unwarned) :
              effect (if warned.exitRequested then (none, warned)
                else runFrom shell source warned (number + 1) lines) =
              goOn (none, after.unwarned) (performAll shell (meant lines)) := by
            rw [← h, goOn, Session.exitRequested_unwarned]
            split
            · rfl
            · exact ih warned (number + 1)
          dsimp only
          cases complaint outcome with
          | none => exact hrest after rfl
          | some text => exact hrest (after.warn _) (Session.unwarned_warn after _)

theorem effect_run (source : Text) (session : Session τ) (lines : List Text) :
    effect (run shell source session lines) = performAll shell (meant lines) session.unwarned :=
  effect_runFrom shell source session 1 lines

/-- A script that goes on with other lines is two scripts, the second of which
is not begun if the first has ended the session. -/
theorem effect_run_append (source other : Text) {session : Session τ}
    (h : session.exitRequested = false) (xs ys : List Text) :
    effect (run shell source session (xs ++ ys)) =
      goOn (effect (run shell other session xs)) (performAll shell (meant ys)) := by
  rw [effect_run, effect_run, meant_append]
  exact performAll_append shell _ _ h

theorem effect_run_append_of_exitRequested (source : Text) {session : Session τ}
    (h : session.exitRequested = false) {xs : List Text}
    (hexit : (run shell source session xs).2.exitRequested = true) (ys : List Text) :
    effect (run shell source session (xs ++ ys)) = effect (run shell source session xs) := by
  rw [effect_run_append shell source source h]
  apply goOn_of_exitRequested
  exact hexit

section

variable {env : Environment} {session after : Session τ}

theorem startUp_of_failed {e : IoError}
    (h : run shell "config startup".toList session shell.config.startup = (some e, after)) :
    startUp shell env session = (some e, after) := by
  rw [startUp, h]

theorem effect_startUp_of_ended
    (h : run shell "config startup".toList session shell.config.startup = (none, after)) :
    effect (startUp shell env session) =
      performAll shell (meant (homeLines env after.files)) after.unwarned := by
  rw [startUp, h]
  exact effect_run shell _ after _

end

/-- The scripts of the start do what one script of all their lines does, which
stops for good where the end is asked for, provided that the settings do not ask
for it. If they do, the first line of the other script that is no comment is
evaluated nevertheless. -/
theorem effect_startUp (env : Environment) {session : Session τ}
    (h : session.exitRequested = false) (source : Text) :
    let first := run shell "config startup".toList session shell.config.startup
    let home := homeLines env first.2.files
    let whole := run shell source session (shell.config.startup ++ home)
    ((first.1 = none → first.2.exitRequested = true → meant home = []) →
      effect (startUp shell env session) = effect whole) ∧
    (∀ xs ys, shell.config.startup ++ home = xs ++ ys →
      (run shell source session xs).2.exitRequested = true →
      effect whole = effect (run shell source session xs)) ∧
    ∀ line lines, first.1 = none → first.2.exitRequested = true → meant home = line :: lines →
      effect (startUp shell env session) = effect (perform shell line first.2) := by
  obtain ⟨⟨failure, after⟩, hfirst⟩ :
      ∃ first, run shell "config startup".toList session shell.config.startup = first := ⟨_, rfl⟩
  dsimp only
  rw [hfirst]
  refine ⟨fun hmeant => ?_, fun xs ys hlines hexit => ?_, fun line lines hnone hexit hmeant => ?_⟩
  · rw [effect_run_append shell source "config startup".toList h, hfirst]
    cases failure with
    | some e =>
        rw [startUp_of_failed shell hfirst]
        rfl
    | none =>
        rw [effect_startUp_of_ended shell hfirst, effect, goOn, Session.exitRequested_unwarned]
        split
        · next hexit => rw [hmeant rfl hexit, performAll_nil]
        · rfl
  · rw [hlines]
    exact effect_run_append_of_exitRequested shell source h hexit ys
  · cases hnone
    have hasked : (perform shell line after).2.exitRequested = true :=
      (regular_perform shell line).lasting after hexit
    rw [effect_startUp_of_ended shell hfirst, hmeant, performAll_cons,
      (regular_perform shell line).heedless]
    apply goOn_of_exitRequested
    exact hasked

/-- The settings lead to another menu, where the home script asks for the end in
front of its last line. -/
theorem effect_startUp_two_scripts :
    let go : Statement := ⟨[.literal "go".toList], [], none⟩
    let stop : Statement := ⟨[.literal "stop".toList], [], none⟩
    let shell : Shell :=
      { Shell.empty { Config.default with startup := ["go".toList] } with
        menus := ⟨[⟨"a".toList, [⟨⟨"go".toList, go⟩, Navigation.enter "b".toList⟩]⟩,
          ⟨"b".toList, [⟨⟨"stop".toList, stop⟩, Navigation.exit⟩]⟩]⟩ }
    let content := Text.bytes "# the other menu\n stop\nstop\n".toList
    let session : Session Collector :=
      .start ⟨[], [([".netpromptrc".toList], .file content)]⟩ .empty
    let env : Environment := ⟨some "/".toList, none, none⟩
    let first := run shell "config startup".toList session shell.config.startup
    session.exitRequested = false ∧ first.2.exitRequested = false ∧
      homeLines env first.2.files = ["# the other menu", " stop", "stop"].map String.toList ∧
      effect (startUp shell env session) =
        effect
          (run shell [] session (["go", "# the other menu", " stop", "stop"].map String.toList)) ∧
      (startUp shell env session).2.calls = [⟨0, 0, []⟩, ⟨1, 0, []⟩] := by
  intro go stop shell content session env first
  have h : session.exitRequested = false := rfl
  have hexit : first.2.exitRequested = false := by
    simp only [first, session, shell, content, go, stop]
    cbv
  have hhome : homeLines env first.2.files =
      ["# the other menu", " stop", "stop"].map String.toList := by
    simp only [first, session, shell, content, go, stop, env]
    cbv
  have hcalls : (startUp shell env session).2.calls = [⟨0, 0, []⟩, ⟨1, 0, []⟩] := by
    simp only [session, shell, content, go, stop, env]
    cbv
  have heffect := (effect_startUp shell env h []).1
  rw [hhome] at heffect
  refine ⟨h, hexit, hhome, heffect fun _ hasked => ?_, hcalls⟩
  rw [hexit] at hasked
  cases hasked

/-- The settings ask for the end, and a handler of the home script is called. -/
theorem startUp_after_exit :
    let quit : Statement := ⟨[.literal "quit".toList], [], none⟩
    let say : Statement := ⟨[.literal "say".toList, .placeholder (.numbered 1) none], [], none⟩
    let aloud : Handler := fun _ args =>
      .write (Text.bytes (Text.spaced args ++ ['\n'])) fun e => .stop ⟨[], e⟩
    let shell : Shell :=
      { Shell.empty { Config.default with startup := ["quit".toList] } with
        menus := ⟨[⟨"main".toList, [⟨⟨"quit".toList, quit⟩, Navigation.exit⟩,
          ⟨⟨"say $1".toList, say⟩, aloud⟩]⟩]⟩ }
    let content := Text.bytes "say hi\n".toList
    let session : Session Collector :=
      .start ⟨[], [([".netpromptrc".toList], .file content)]⟩ .empty
    let env : Environment := ⟨some "/".toList, none, none⟩
    let started := (startUp shell env session).2
    let joined := (run shell [] session (["quit", "say hi"].map String.toList)).2
    session.exitRequested = false ∧
      homeLines env session.files = ["say hi".toList] ∧
      started.calls = [⟨0, 0, []⟩, ⟨0, 1, ["hi".toList]⟩] ∧
      started.sink.bytes = Text.bytes "hi\n".toList ∧
      joined.calls = [⟨0, 0, []⟩] ∧ joined.sink.bytes = [] := by
  refine ⟨rfl, by cbv, by cbv, by cbv, by cbv, by cbv⟩

end Script

end MenuLine
