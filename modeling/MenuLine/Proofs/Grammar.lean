import MenuLine.Proofs.Spelling
import MenuLine.Statement.Grammar

/-!
# Reading the grammar

`Reading.Moves` lists what a token of user input can do to a reading. From it
both directions follow: the tokens of each part of the grammar lead where they
should, and whatever is left of a line that is read to its end belongs to the
part of the grammar that the reading has got to.
-/

namespace MenuLine

namespace Reading

/-- A statement that may go on with a filter or an output file. -/
inductive Open (c : List Statement) : Statement → Reading → Prop where
  | words (s : Statement) : Open c s ⟨c, s, .words⟩
  | filterArgs (s : Statement) (f : FilterCall) :
      Open c { s with filters := s.filters ++ [f] } ⟨c, s, .filterArgs f⟩

/-- A statement that may be complete. -/
inductive Complete (c : List Statement) : Statement → Reading → Prop where
  | opened {s : Statement} {r : Reading} (h : Open c s r) : Complete c s r
  | separator (s : Statement) : Complete c s ⟨c, s, .separator⟩

/-- What holds of the current statement wherever tokens of user input lead. -/
inductive Sane : Reading → Prop where
  | statement (c : List Statement) : Sane ⟨c, .empty, .statement⟩
  | words {c : List Statement} {s : Statement} (hs : s.isEmpty = false) (ho : s.output = none) :
      Sane ⟨c, s, .words⟩
  | filterName {c : List Statement} {s : Statement} (hs : s.isEmpty = false)
      (ho : s.output = none) : Sane ⟨c, s, .filterName⟩
  | filterArgs {c : List Statement} {s : Statement} {f : FilterCall} (hs : s.isEmpty = false)
      (ho : s.output = none) : Sane ⟨c, s, .filterArgs f⟩
  | filename {c : List Statement} {s : Statement} (hs : s.isEmpty = false) :
      Sane ⟨c, s, .filename⟩
  | separator {c : List Statement} {s : Statement} (hs : s.isEmpty = false)
      (ho : s.output ≠ none) : Sane ⟨c, s, .separator⟩

/-- What one token of user input can do. -/
inductive Moves : Reading → Token → Reading → Prop where
  | first {c t w} (h : t.word? = some w) :
      Moves ⟨c, .empty, .statement⟩ t ⟨c, ⟨[.literal w], [], none⟩, .words⟩
  | skip {c s t} (h : t.kind = .continuation) : Moves ⟨c, s, .statement⟩ t ⟨c, s, .statement⟩
  | word {c s t w} (h : t.word? = some w) :
      Moves ⟨c, s, .words⟩ t ⟨c, { s with segments := s.segments ++ [.literal w] }, .words⟩
  | wordsSkip {c s t} (h : t.kind = .continuation) : Moves ⟨c, s, .words⟩ t ⟨c, s, .words⟩
  | arg {c s f t w} (h : t.word? = some w) :
      Moves ⟨c, s, .filterArgs f⟩ t ⟨c, s, .filterArgs { f with args := f.args ++ [w] }⟩
  | argsSkip {c s f t} (h : t.kind = .continuation) :
      Moves ⟨c, s, .filterArgs f⟩ t ⟨c, s, .filterArgs f⟩
  | pipe {c s r t} (hopen : Open c s r) (h : t.kind = .pipe) : Moves r t ⟨c, s, .filterName⟩
  | name {c s t} (h : t.kind = .word) :
      Moves ⟨c, s, .filterName⟩ t ⟨c, s, .filterArgs ⟨t.text, []⟩⟩
  | redirect {c s r t} (hopen : Open c s r) (h : t.kind = .redirect) : Moves r t ⟨c, s, .filename⟩
  | file {c s t} (ho : s.output = none) (h : t.kind = .filename) :
      Moves ⟨c, s, .filename⟩ t ⟨c, { s with output := some t.text }, .separator⟩
  | again {c s t} (h : t.kind = .redirect) : Moves ⟨c, s, .separator⟩ t ⟨c, s, .filename⟩
  | close {c s r t} (hcomplete : Complete c s r) (hs : s.isEmpty = false)
      (h : t.kind = .separator) : Moves r t ⟨c ++ [s], .empty, .statement⟩

theorem word?_eq_some_iff {t : Token} {w : Text} :
    t.word? = some w ↔
      (t.kind = .word ∧ t.text = w) ∨ (t.kind = .quoted ∧ Quoted.unquote t.text = w) := by
  obtain ⟨kind, text⟩ := t
  cases kind <;> simp [Token.word?]

theorem close_eq {c : List Statement} {s : Statement} (hs : s.isEmpty = false) (e : Expecting) :
    (⟨c, s, e⟩ : Reading).close = ⟨c ++ [s], .empty, .statement⟩ := by
  simp [close, hs]

theorem Moves.step_eq {r r' : Reading} {t : Token} (h : Moves r t r') : r.step t = .ok r' := by
  obtain ⟨kind, text⟩ := t
  cases h with
  | first h =>
      rcases word?_eq_some_iff.1 h with ⟨hkind, rfl⟩ | ⟨hkind, rfl⟩ <;> cases hkind <;> rfl
  | skip h => cases h; rfl
  | word h =>
      rcases word?_eq_some_iff.1 h with ⟨hkind, rfl⟩ | ⟨hkind, rfl⟩ <;> cases hkind <;> rfl
  | wordsSkip h => cases h; rfl
  | arg h =>
      rcases word?_eq_some_iff.1 h with ⟨hkind, rfl⟩ | ⟨hkind, rfl⟩ <;> cases hkind <;> rfl
  | argsSkip h => cases h; rfl
  | pipe hopen h => cases h; cases hopen <;> rfl
  | name h => cases h; rfl
  | redirect hopen h => cases h; cases hopen <;> rfl
  | file ho h =>
      cases h
      simp [step, setOutput, ho]
  | again h => cases h; rfl
  | close hcomplete hs h =>
      cases h
      rcases hcomplete with hopen | _
      · rcases hopen with _ | _
        · exact congrArg Except.ok (close_eq hs _)
        · exact congrArg Except.ok (close_eq hs _)
      · exact congrArg Except.ok (close_eq hs _)

theorem moves_of_stepWords {c : List Statement} {s : Statement} {r r' : Reading} {t : Token}
    (hopen : Open c s r) (hs : s.isEmpty = false) (hword : t.word? = none)
    (hskip : t.kind ≠ .continuation) (hplaceholder : t.kind ≠ .placeholder)
    (h : stepWords ⟨c, s, .words⟩ t = .ok r') : Moves r t r' := by
  obtain ⟨kind, text⟩ := t
  cases kind <;> simp [stepWords, Token.word?, expect, close_eq hs] at h hword hskip hplaceholder
  · subst h
    exact .close (.opened hopen) hs rfl
  · subst h
    exact .pipe hopen rfl
  · subst h
    exact .redirect hopen rfl

theorem Moves.of_step_eq {r r' next : Reading} {t : Token} (hmove : Moves r t next)
    (h : r.step t = .ok r') : Moves r t r' := by
  cases hmove.step_eq.symm.trans h
  exact hmove

/-- On user input a reading does nothing else. -/
theorem Sane.moves {r r' : Reading} {t : Token} (hr : r.Sane) (hplaceholder : t.kind ≠ .placeholder)
    (h : r.step t = .ok r') : Moves r t r' := by
  cases hr with
  | statement c =>
      cases hword : t.word? with
      | some w => exact (Moves.first hword).of_step_eq h
      | none =>
          by_cases hskip : t.kind = .continuation
          · exact (Moves.skip hskip).of_step_eq h
          · obtain ⟨kind, text⟩ := t
            cases kind <;> simp [step, Token.word?] at h hword hskip
  | @words c s hs ho =>
      cases hword : t.word? with
      | some w => exact (Moves.word hword).of_step_eq h
      | none =>
          by_cases hskip : t.kind = .continuation
          · exact (Moves.wordsSkip hskip).of_step_eq h
          · exact moves_of_stepWords (.words s) hs hword hskip hplaceholder h
  | @filterName c s hs ho =>
      by_cases hname : t.kind = .word
      · exact (Moves.name hname).of_step_eq h
      · simp [step, hname] at h
  | @filterArgs c s f hs ho =>
      cases hword : t.word? with
      | some w => exact (Moves.arg hword).of_step_eq h
      | none =>
          by_cases hskip : t.kind = .continuation
          · exact (Moves.argsSkip hskip).of_step_eq h
          · refine moves_of_stepWords (.filterArgs s f) hs hword hskip hplaceholder ?_
            obtain ⟨kind, text⟩ := t
            cases kind <;> first | exact h | exact absurd rfl hskip | simp [Token.word?] at hword
  | @filename c s hs =>
      by_cases hfile : t.kind = .filename
      · by_cases ho : s.output = none
        · exact (Moves.file ho hfile).of_step_eq h
        · simp [step, hfile, setOutput, Option.isSome_iff_ne_none.2 ho] at h
      · simp [step, hfile] at h
  | @separator c s hs ho =>
      obtain ⟨kind, text⟩ := t
      cases kind <;> simp [step, expect, close_eq hs] at h
      · subst h
        exact .close (.separator s) hs rfl
      · subst h
        exact .again rfl

theorem Open.output {c : List Statement} {s : Statement} {r : Reading} (h : Open c s r)
    (hr : r.Sane) : s.isEmpty = false ∧ s.output = none := by
  cases h with
  | words s =>
      cases hr with
      | words hs ho => exact ⟨hs, ho⟩
  | filterArgs s f =>
      cases hr with
      | filterArgs hs ho => exact ⟨hs, ho⟩

theorem Moves.sane {r r' : Reading} {t : Token} (h : Moves r t r') (hr : r.Sane) : r'.Sane := by
  cases h with
  | first h => exact .words rfl rfl
  | skip h => exact hr
  | word h =>
      cases hr with
      | words hs ho => exact .words (by simp [Statement.isEmpty]) ho
  | wordsSkip h => exact hr
  | arg h =>
      cases hr with
      | filterArgs hs ho => exact .filterArgs hs ho
  | argsSkip h => exact hr
  | pipe hopen h =>
      obtain ⟨hs, ho⟩ := hopen.output hr
      exact .filterName hs ho
  | name h =>
      cases hr with
      | filterName hs ho => exact .filterArgs hs ho
  | redirect hopen h => exact .filename (hopen.output hr).1
  | file ho h =>
      cases hr with
      | filename hs => exact .separator hs (by simp)
  | again h =>
      cases hr with
      | separator hs ho => exact .filename hs
  | close hcomplete hs h => exact .statement _

theorem Complete.finish {c : List Statement} {s : Statement} {r : Reading} (h : Complete c s r)
    (hs : s.isEmpty = false) : r.finish = .ok (c ++ [s]) := by
  have hclose (e : Expecting) : (⟨c, s, e⟩ : Reading).close.complete = c ++ [s] := by
    rw [close_eq hs]
  rcases h with hopen | _
  · rcases hopen with _ | _
    · exact congrArg Except.ok (hclose _)
    · exact congrArg Except.ok (hclose _)
  · exact congrArg Except.ok (hclose _)

end Reading

namespace Grammar

open Reading

/-! ## What is derived is read -/

theorem steps_of_moves {r r' : Reading} {t : Token} (h : Moves r t r') (ts : List Token) :
    r.steps (t :: ts) = r'.steps ts := by
  rw [steps_cons, h.step_eq]
  rfl

theorem Continuations.steps {cs : List Token} (h : Continuations cs) (c : List Statement) :
    Reading.steps ⟨c, .empty, .statement⟩ cs = .ok ⟨c, .empty, .statement⟩ := by
  induction cs with
  | nil => rfl
  | cons t cs ih =>
      rw [steps_of_moves (.skip (h t List.mem_cons_self))]
      exact ih fun u hu => h u (List.mem_cons_of_mem t hu)

theorem Words.steps {ts : List Token} {ws : List Text} (h : Words ts ws) (c : List Statement)
    (s : Statement) :
    Reading.steps ⟨c, s, .words⟩ ts =
      .ok ⟨c, { s with segments := s.segments ++ ws.map .literal }, .words⟩ := by
  induction h generalizing s with
  | nil => simp
  | word h hwords ih => rw [steps_of_moves (.word h), ih]; simp
  | continuation h hwords ih => rw [steps_of_moves (.wordsSkip h), ih]

theorem Words.steps_args {ts : List Token} {ws : List Text} (h : Words ts ws) (c : List Statement)
    (s : Statement) (f : FilterCall) :
    Reading.steps ⟨c, s, .filterArgs f⟩ ts =
      .ok ⟨c, s, .filterArgs { f with args := f.args ++ ws }⟩ := by
  induction h generalizing f with
  | nil => simp
  | word h hwords ih => rw [steps_of_moves (.arg h), ih]; simp
  | continuation h hwords ih => rw [steps_of_moves (.argsSkip h), ih]

theorem Filters.steps {fs : List Token} {calls : List FilterCall} (h : Filters fs calls)
    {c : List Statement} {s : Statement} {r : Reading} (hopen : Open c s r) :
    ∃ r', r.steps fs = .ok r' ∧ Open c { s with filters := s.filters ++ calls } r' := by
  induction h generalizing s r with
  | nil => exact ⟨r, rfl, by simpa using hopen⟩
  | @cons pipe name ts args us calls hpipe hname hargs hfilters ih =>
      obtain ⟨r', hsteps, hopen'⟩ := ih (.filterArgs s ⟨name.text, args⟩)
      refine ⟨r', ?_, by simpa using hopen'⟩
      rw [steps_of_moves (.pipe hopen hpipe), steps_of_moves (.name hname), steps_append,
        hargs.steps_args]
      exact hsteps

theorem Output.steps {os : List Token} {output : Option Text} (h : Output os output)
    {c : List Statement} {s : Statement} {r : Reading} (hopen : Open c s r)
    (ho : s.output = none) :
    ∃ r', r.steps os = .ok r' ∧ Complete c { s with output := output } r' := by
  cases h with
  | unnamed =>
      refine ⟨r, rfl, ?_⟩
      rw [← ho]
      exact .opened hopen
  | @named redirect file hredirect hfile =>
      refine ⟨_, ?_, .separator _⟩
      rw [steps_of_moves (.redirect hopen hredirect), steps_of_moves (.file ho hfile)]
      rfl

theorem IsStatement.steps {ts : List Token} {s : Statement} (h : IsStatement ts s)
    (c : List Statement) :
    ∃ r', Reading.steps ⟨c, .empty, .statement⟩ ts = .ok r' ∧ Complete c s r' ∧
      s.isEmpty = false := by
  obtain @⟨t, w, ts, ws, fs, calls, os, output, hfirst, hwords, hfilters, houtput⟩ := h
  obtain ⟨r, hsteps, hopen⟩ := hfilters.steps (.words (c := c) ⟨(w :: ws).map .literal, [], none⟩)
  obtain ⟨r', hsteps', hcomplete⟩ := houtput.steps hopen rfl
  refine ⟨r', ?_, hcomplete, rfl⟩
  calc
    _ = (Reading.steps ⟨c, ⟨(w :: ws).map .literal, [], none⟩, .words⟩ (fs ++ os)) := by
      rw [steps_of_moves (.first hfirst), steps_append, hwords.steps]
      rfl
    _ = .ok r' := by
      rw [steps_append, hsteps]
      exact hsteps'

theorem More.finish {ts : List Token} {ss : List Statement} (h : More ts ss) {c : List Statement}
    {s : Statement} {r : Reading} (hcomplete : Complete c s r) (hs : s.isEmpty = false) :
    (r.steps ts).bind Reading.finish = .ok (c ++ s :: ss) := by
  induction h generalizing c s r with
  | nil => exact hcomplete.finish hs
  | trailing hsep hcs =>
      rw [steps_of_moves (.close hcomplete hs hsep), hcs.steps]
      rfl
  | cons hsep hcs hstatement hmore ih =>
      obtain ⟨r', hsteps, hcomplete', hs'⟩ := hstatement.steps (c ++ [s])
      have hlast := ih hcomplete' hs'
      rw [steps_of_moves (.close hcomplete hs hsep), steps_append, hcs.steps]
      simp only [Except.bind, steps_append, hsteps]
      rw [List.append_cons c s]
      exact hlast

theorem IsLine.finish {ts : List Token} {ss : List Statement} (h : IsLine ts ss) :
    (Reading.start.steps ts).bind Reading.finish = .ok ss := by
  cases h with
  | blank hcs =>
      rw [Reading.start, hcs.steps]
      rfl
  | mk hcs hstatement hmore =>
      obtain ⟨r', hsteps, hcomplete, hs⟩ := hstatement.steps []
      have hlast := hmore.finish hcomplete hs
      rw [Reading.start, steps_append, hcs.steps]
      simp only [Except.bind, steps_append, hsteps]
      exact hlast

/-! ## What is read is derived -/

/-- What may follow the words of a statement or the arguments of a filter:
the rest of the statement, which has got as far as `s`, and of the line. -/
inductive Tail (s : Statement) : List Token → List Statement → Prop where
  | mk {fs calls os output us ss} (hfilters : Filters fs calls) (houtput : Output os output)
      (hmore : More us ss) :
      Tail s (fs ++ (os ++ us)) (⟨s.segments, s.filters ++ calls, output⟩ :: ss)

theorem Tail.ended {s : Statement} (ho : s.output = none) {us : List Token}
    {ss : List Statement} (h : More us ss) : Tail s us (s :: ss) := by
  have hs : (⟨s.segments, s.filters ++ [], none⟩ : Statement) = s := by
    rw [List.append_nil, ← ho]
  have htail := Tail.mk (s := s) .nil .unnamed h
  rw [hs] at htail
  exact htail

theorem Tail.redirect {s : Statement} {redirect file : Token} {ts : List Token}
    {ss : List Statement} (hredirect : redirect.kind = .redirect) (hfile : file.kind = .filename)
    (h : More ts ss) :
    Tail s (redirect :: file :: ts) ({ s with output := some file.text } :: ss) := by
  have htail := Tail.mk (s := s) .nil (.named hredirect hfile) h
  rw [List.append_nil] at htail
  exact htail

theorem Tail.pipe {s : Statement} {pipe name : Token} {ts us : List Token} {args : List Text}
    {ss : List Statement} (hpipe : pipe.kind = .pipe) (hname : name.kind = .word)
    (hargs : Words ts args)
    (h : Tail { s with filters := s.filters ++ [⟨name.text, args⟩] } us ss) :
    Tail s (pipe :: name :: (ts ++ us)) ss := by
  cases h with
  | mk hfilters houtput hmore =>
      have h := Tail.mk (s := s) (.cons hpipe hname hargs hfilters) houtput hmore
      simpa using h

/-- The rest of a line that has been read so far, and all its statements. -/
inductive Remains : Reading → List Token → List Statement → Prop where
  | statement {c s ts ss} (h : IsLine ts ss) : Remains ⟨c, s, .statement⟩ ts (c ++ ss)
  | words {c s ts ws us ss} (hwords : Words ts ws)
      (h : Tail { s with segments := s.segments ++ ws.map .literal } us ss) :
      Remains ⟨c, s, .words⟩ (ts ++ us) (c ++ ss)
  | filterName {c s name ts args us ss} (hname : name.kind = .word) (hargs : Words ts args)
      (h : Tail { s with filters := s.filters ++ [⟨name.text, args⟩] } us ss) :
      Remains ⟨c, s, .filterName⟩ (name :: (ts ++ us)) (c ++ ss)
  | filterArgs {c s f ts args us ss} (hargs : Words ts args)
      (h : Tail { s with filters := s.filters ++ [⟨f.name, f.args ++ args⟩] } us ss) :
      Remains ⟨c, s, .filterArgs f⟩ (ts ++ us) (c ++ ss)
  | filename {c s file us ss} (ho : s.output = none) (hfile : file.kind = .filename)
      (h : More us ss) :
      Remains ⟨c, s, .filename⟩ (file :: us) (c ++ { s with output := some file.text } :: ss)
  | separator {c s ts ss} (h : More ts ss) : Remains ⟨c, s, .separator⟩ ts (c ++ s :: ss)

theorem remains_of_tail {c : List Statement} {s : Statement} {r : Reading} (hopen : Open c s r)
    {ts : List Token} {ss : List Statement} (h : Tail s ts ss) : Remains r ts (c ++ ss) := by
  cases hopen with
  | words s => exact .words .nil (by simpa using h)
  | filterArgs s f => exact .filterArgs .nil (by simpa using h)

theorem Remains.nil {r : Reading} (hr : r.Sane) {ss : List Statement} (h : r.finish = .ok ss) :
    Remains r [] ss := by
  cases hr with
  | statement c =>
      cases h
      have hblank : Remains ⟨c, .empty, .statement⟩ [] (c ++ []) :=
        .statement (.blank continuations_nil)
      rw [List.append_nil] at hblank
      exact hblank
  | @words c s hs ho =>
      cases (Complete.opened (.words (c := c) s)).finish hs |>.symm.trans h
      exact remains_of_tail (.words s) (.ended ho .nil)
  | filterName hs ho => cases h
  | @filterArgs c s f hs ho =>
      cases (Complete.opened (.filterArgs (c := c) s f)).finish hs |>.symm.trans h
      have htail := Tail.ended (s := { s with filters := s.filters ++ [f] }) ho .nil
      exact remains_of_tail (.filterArgs s f) htail
  | filename hs => cases h
  | @separator c s hs ho =>
      cases (Complete.separator (c := c) s).finish hs |>.symm.trans h
      exact .separator .nil

theorem Remains.cons {r r' : Reading} {t : Token} (hmove : Moves r t r') (hr : r.Sane)
    {ts : List Token} {ss : List Statement} (h : Remains r' ts ss) : Remains r (t :: ts) ss := by
  cases hmove with
  | @first c t w hword =>
      cases h with
      | words hwords h =>
          cases h with
          | mk hfilters houtput hmore =>
              have hline := IsLine.mk continuations_nil (.mk hword hwords hfilters houtput) hmore
              simpa using Remains.statement (c := c) (s := .empty) hline
  | skip hskip =>
      cases h with
      | statement h => exact .statement (h.skip hskip)
  | word hword =>
      cases h with
      | words hwords h => exact .words (.word hword hwords) (by simpa using h)
  | wordsSkip hskip =>
      cases h with
      | words hwords h => exact .words (.continuation hskip hwords) h
  | arg hword =>
      cases h with
      | filterArgs hargs h => exact .filterArgs (.word hword hargs) (by simpa using h)
  | argsSkip hskip =>
      cases h with
      | filterArgs hargs h => exact .filterArgs (.continuation hskip hargs) h
  | pipe hopen hpipe =>
      cases h with
      | filterName hname hargs h => exact remains_of_tail hopen (h.pipe hpipe hname hargs)
  | name hname =>
      cases h with
      | filterArgs hargs h => exact .filterName hname hargs h
  | redirect hopen hredirect =>
      cases h with
      | filename ho hfile h => exact remains_of_tail hopen (.redirect hredirect hfile h)
  | file ho hfile =>
      cases h with
      | separator h => exact .filename ho hfile h
  | again hredirect =>
      cases h with
      | filename ho hfile h =>
          cases hr with
          | separator hs hne => exact absurd ho hne
  | close hcomplete hs hsep =>
      cases h with
      | statement h =>
          rw [← List.append_cons]
          rcases hcomplete with hopen | _
          · exact remains_of_tail hopen (.ended (hopen.output hr).2 (h.more hsep))
          · exact .separator (h.more hsep)

theorem remains_of_steps {ts : List Token} (hts : ∀ t ∈ ts, t.kind ≠ .placeholder) {r : Reading}
    (hr : r.Sane) {ss : List Statement} (h : (r.steps ts).bind Reading.finish = .ok ss) :
    Remains r ts ss := by
  induction ts generalizing r with
  | nil => exact .nil hr h
  | cons t ts ih =>
      cases hstep : r.step t with
      | error e =>
          rw [steps_cons, hstep] at h
          cases h
      | ok r' =>
          have hmove := hr.moves (hts t List.mem_cons_self) hstep
          rw [steps_of_moves hmove] at h
          have hlast := ih (fun u hu => hts u (List.mem_cons_of_mem t hu)) (hmove.sane hr) h
          exact .cons hmove hr hlast

/-- Tokens without placeholders are read to the end if and only if they form
a line, and then they are read as the statements of the line. -/
theorem steps_finish_eq_ok_iff {ts : List Token} (hts : ∀ t ∈ ts, t.kind ≠ .placeholder)
    (ss : List Statement) :
    (Reading.start.steps ts).bind Reading.finish = .ok ss ↔ IsLine ts ss := by
  constructor
  · intro h
    have hremains : Remains ⟨[], .empty, .statement⟩ ts ss := remains_of_steps hts (.statement []) h
    cases hremains with
    | statement hline => exact hline
  · exact IsLine.finish

end Grammar

namespace Statement

/-- A line of user input is read if and only if it can be divided into tokens
that the grammar derives, as the statements that they stand for; any other
line is refused. -/
theorem parse_input_iff (line : Text) :
    (∀ ss, parse .input line = .ok ss ↔
      ∃ ts, scan .input line = (ts, none) ∧ Grammar.IsLine ts ss) ∧
    ((¬ ∃ ts ss, scan .input line = (ts, none) ∧ Grammar.IsLine ts ss) →
      ∃ e, parse .input line = .error e) := by
  have hiff (ss : List Statement) : parse .input line = .ok ss ↔
      ∃ ts, scan .input line = (ts, none) ∧ Grammar.IsLine ts ss := by
    rcases hscan : scan .input line with ⟨ts, _ | e⟩
    · have hts := kind_ne_placeholder_of_scan hscan
      have hparse : parse .input line = (Reading.start.steps ts).bind Reading.finish := by
        simp only [parse, hscan, ofTokens]
      rw [hparse, Grammar.steps_finish_eq_ok_iff hts]
      simp
    · have hparse : ∃ cause, parse .input line = .error cause := by
        simp only [parse, hscan, ofTokens]
        cases Reading.start.steps ts with
        | error cause => exact ⟨cause, rfl⟩
        | ok r => exact ⟨.scan e, rfl⟩
      obtain ⟨cause, hparse⟩ := hparse
      simp [hparse]
  refine ⟨hiff, fun hnone => ?_⟩
  cases hparse : parse .input line with
  | error e => exact ⟨e, rfl⟩
  | ok ss =>
      obtain ⟨ts, hscan, hline⟩ := (hiff ss).1 hparse
      exact absurd ⟨ts, ss, hscan, hline⟩ hnone

end Statement

end MenuLine
