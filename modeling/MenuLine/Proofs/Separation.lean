import MenuLine.Proofs.Layout
import MenuLine.Statement.Parser

/-!
# Lines joined by a semicolon

A semicolon ends whatever stands in front of it and leaves nothing behind but
complete statements. The tokens of a line are therefore its first tokens when a
semicolon and another line are put behind it, and what is read of the other line
is added to what has been read before. The main statement is
`Statement.parse_append_semicolon`.
-/

namespace MenuLine

/-! ## A character that is not taken -/

theorem takeWhile_append_cons {p : Char → Bool} {c : Char} (hc : p c = false) (t u : Text) :
    (t ++ c :: u).takeWhile p = t.takeWhile p := by
  induction t with
  | nil => simp [hc]
  | cons d t ih =>
      cases hd : p d <;> simp [hd, ih]

theorem dropWhile_append_cons {p : Char → Bool} {c : Char} (hc : p c = false) (t u : Text) :
    (t ++ c :: u).dropWhile p = t.dropWhile p ++ c :: u := by
  induction t with
  | nil => simp [hc]
  | cons d t ih =>
      cases hd : p d <;> simp [hd, ih]

namespace Scanner

def extend (s : Scanner) (u : Text) : Scanner := ⟨s.rest ++ u, s.phase⟩

def semicolon : Token := ⟨.separator, [';']⟩

/-- A semicolon or a blank. Outside of quotes no token goes on with either. -/
def Stops (c : Char) : Prop := c = ';' ∨ isBlank c = true

/-- What a pull comes to when a character and another line are put behind the
line that is pulled from. Nothing is said of a line that is in error, and nothing
of one that has ended, since another token may come now. -/
inductive Followed (c : Char) (y : Text) : Pull → Pull → Prop where
  | token (t : Token) (after : Scanner) :
      Followed c y (some (.ok t), after) (some (.ok t), after.extend (c :: y))
  /-- The blank behind the name of a file is read together with it. -/
  | filename (name : Text) (hc : isBlank c = true) :
      Followed c y (token .filename name [] .command) (token .filename name y .command)
  | ended (p : Pull) : Followed c y ended p
  | failed (e : ScanError) (rest : Text) (p : Pull) : Followed c y (failed e rest) p

/-- What a pull comes to when a semicolon and another line are put behind the
line that is pulled from. Of a line that is in error nothing is said. -/
inductive Extended (y : Text) : Pull → Pull → Prop where
  | token (t : Token) (after : Scanner) :
      Extended y (some (.ok t), after) (some (.ok t), after.extend (';' :: y))
  | ended : Extended y ended (some (.ok semicolon), .start y)
  | failed (e : ScanError) (rest : Text) (p : Pull) : Extended y (failed e rest) p

variable {mode : Mode} {c : Char} {y : Text}

theorem stops_semicolon : Stops ';' := .inl rfl

theorem Stops.eq (hc : Stops c) : c = ';' ∨ c = ' ' ∨ c = '\t' := by
  simpa [Stops, isBlank] using hc

theorem Stops.isWordChar (hc : Stops c) : isWordChar mode c = false := by
  rcases hc.eq with rfl | rfl | rfl <;> rfl

theorem Stops.isNameChar (hc : Stops c) : isNameChar c = false := by
  rcases hc.eq with rfl | rfl | rfl <;> rfl

theorem Stops.isDigit (hc : Stops c) : c.isDigit = false := by
  rcases hc.eq with rfl | rfl | rfl <;> rfl

theorem Stops.isLineEnd (hc : Stops c) : isLineEnd c = false := by
  rcases hc.eq with rfl | rfl | rfl <;> rfl

theorem followed_pullWord (hc : Stops c) (first : Char) (rest : Text) :
    Followed c y (pullWord mode first rest) (pullWord mode first (rest ++ c :: y)) := by
  unfold pullWord
  rw [takeWhile_append_cons hc.isWordChar, dropWhile_append_cons hc.isWordChar]
  exact .token _ _

theorem splitQuote_append {quote : Char} (hquote : quote ≠ '\\') {t body rest : Text}
    (h : splitQuote quote t = some (body, rest)) (u : Text) :
    splitQuote quote (t ++ u) = some (body, rest ++ u) := by
  rw [append_of_splitQuote h, List.append_assoc]
  exact splitQuote_body hquote h (rest ++ u)

theorem ne_slash_of_isQuote {quote : Char} (h : isQuote quote = true) : quote ≠ '\\' := by
  rintro rfl
  exact absurd h (by decide)

theorem followed_pullQuoted {quote : Char} (hquote : isQuote quote = true) (rest : Text) :
    Followed c y (pullQuoted quote rest) (pullQuoted quote (rest ++ c :: y)) := by
  unfold pullQuoted
  split
  · exact .failed _ _ _
  · next body after hsplit =>
      rw [splitQuote_append (ne_slash_of_isQuote hquote) hsplit]
      exact .token _ _

theorem phaseAfterPlaceholder_append (hc : Stops c) (rest : Text) :
    phaseAfterPlaceholder (rest ++ c :: y) = phaseAfterPlaceholder rest := by
  cases rest with
  | nil => rcases hc.eq with rfl | rfl | rfl <;> rfl
  | cons d r =>
      by_cases hd : d = ':'
      · rw [hd]
        rfl
      · simp [phaseAfterPlaceholder, hd]

theorem followed_pullPlaceholder (hc : Stops c) (rest : Text) :
    Followed c y (pullPlaceholder rest) (pullPlaceholder (rest ++ c :: y)) := by
  have hplaceholder (text after : Text) :
      Followed c y (token .placeholder text after (phaseAfterPlaceholder after))
        (token .placeholder text (after ++ c :: y)
          (phaseAfterPlaceholder (after ++ c :: y))) := by
    rw [phaseAfterPlaceholder_append hc]
    exact .token _ _
  fun_cases pullPlaceholder rest with
  | case1 => exact .failed _ _ _
  | case2 rest => exact hplaceholder ['*'] rest
  | case3 d rest _ hd after =>
      have hpull : pullPlaceholder (d :: rest ++ c :: y) =
          token .placeholder (d :: rest.takeWhile Char.isDigit) (after ++ c :: y)
            (phaseAfterPlaceholder (after ++ c :: y)) := by
        simp [pullPlaceholder, hd, takeWhile_append_cons hc.isDigit,
          dropWhile_append_cons hc.isDigit, after]
      rw [hpull]
      exact hplaceholder _ after
  | case4 => exact .failed _ _ _

theorem followed_pullCommand (hc : Stops c) (rest : Text) :
    Followed c y (pullCommand mode rest) (pullCommand mode (rest ++ c :: y)) := by
  unfold pullCommand
  rw [List.dropWhile_append]
  cases rest.dropWhile isBlank with
  | nil => exact .ended _
  | cons d r =>
      have hhead : ((r ++ c :: y).head?.map isLineEnd).getD false =
          (r.head?.map isLineEnd).getD false := by
        cases r with
        | nil => exact hc.isLineEnd
        | cons e r => rfl
      simp only [List.isEmpty_cons, Bool.false_eq_true, if_false, List.cons_append, hhead]
      split
      · next hquote => exact followed_pullQuoted hquote r
      split
      · exact .token _ _
      split
      · exact .token _ _
      split
      · exact .token _ _
      split
      · exact followed_pullPlaceholder hc r
      split
      · rw [dropWhile_append_cons hc.isLineEnd]
        exact .token _ _
      split
      · exact .token _ _
      · exact followed_pullWord hc d r

theorem followed_pullFilterName (hc : Stops c) (rest : Text) :
    Followed c y (pullFilterName mode rest) (pullFilterName mode (rest ++ c :: y)) := by
  unfold pullFilterName
  rw [List.dropWhile_append]
  cases rest.dropWhile isBlank with
  | nil => exact .ended _
  | cons d r =>
      simp only [List.isEmpty_cons, Bool.false_eq_true, if_false, List.cons_append]
      split
      · exact followed_pullWord hc d r
      split
      · exact .token _ _
      split
      · exact .token _ _
      · exact .failed _ _ _

theorem followed_pullFilename (hc : Stops c) (rest : Text) :
    Followed c y (pullFilename mode rest) (pullFilename mode (rest ++ c :: y)) := by
  unfold pullFilename
  rw [List.dropWhile_append]
  generalize rest.dropWhile isBlank = line
  cases line with
  | nil => exact .ended _
  | cons d r =>
      simp only [List.isEmpty_cons, Bool.false_eq_true, if_false,
        takeWhile_append_cons hc.isWordChar, dropWhile_append_cons hc.isWordChar]
      have hline := List.takeWhile_append_dropWhile (p := isWordChar mode) (l := d :: r)
      generalize (d :: r).takeWhile (isWordChar mode) = name at hline ⊢
      generalize (d :: r).dropWhile (isWordChar mode) = after at hline ⊢
      cases after with
      | nil =>
          have hname : name ≠ [] := by
            rintro rfl
            simp at hline
          simp only [List.nil_append, if_neg hname]
          rcases hc with rfl | hblank
          · exact .token _ _
          · rw [if_pos hblank]
            exact .filename name hblank
      | cons e after =>
          simp only [List.cons_append]
          split
          · exact .token _ _
          split
          · split
            · exact followed_pullCommand hc (e :: after)
            · exact .token _ _
          · exact .failed _ _ _

theorem followed_pullCompletionType (hc : Stops c) (rest : Text) :
    Followed c y (pullCompletionType (':' :: rest))
      (pullCompletionType (':' :: rest ++ c :: y)) := by
  unfold pullCompletionType
  simp only [List.cons_append, List.drop_one, List.tail_cons,
    takeWhile_append_cons hc.isNameChar, dropWhile_append_cons hc.isNameChar]
  exact .token _ _

theorem Ready.followed {s : Scanner} (h : s.Ready) (mode : Mode) (hc : Stops c) (y : Text) :
    Followed c y (pull mode s) (pull mode (s.extend (c :: y))) := by
  obtain ⟨rest, phase⟩ := s
  cases phase with
  | command => exact followed_pullCommand hc rest
  | filterName => exact followed_pullFilterName hc rest
  | filename => exact followed_pullFilename hc rest
  | completionType =>
      obtain ⟨r, rfl⟩ := h.colon rfl
      exact followed_pullCompletionType hc r
  | done => exact absurd rfl h.going

theorem phase_of_pull_none {s last : Scanner} (h : pull mode s = (none, last)) :
    s.phase ≠ .completionType := by
  intro hphase
  rw [pull, hphase] at h
  cases h

/-- What is put behind a line that has ended is read as if it stood there alone. -/
theorem Ready.pull_extend {s last : Scanner} (h : s.Ready) (hpull : pull mode s = (none, last))
    (u : Text) : pull mode (s.extend u) = pull mode ⟨u, s.phase⟩ :=
  pull_blank_append ⟨phase_of_pull_none hpull, h.going⟩ (h.ended hpull).1 u

theorem Ready.extended {s : Scanner} (h : s.Ready) (mode : Mode) (y : Text) :
    Extended y (pull mode s) (pull mode (s.extend (';' :: y))) := by
  have hfollowed := h.followed mode stops_semicolon y
  rcases hpull : pull mode s with ⟨_ | ⟨e | t⟩, last⟩
  · rw [(h.ended hpull).2, h.pull_extend hpull]
    obtain ⟨rest, phase⟩ := s
    cases phase with
    | completionType => cases hpull
    | done => exact absurd rfl h.going
    | _ => exact .ended
  · have houtcome := h.outcome mode
    rw [hpull] at houtcome
    cases houtcome with
    | failed e rest => exact .failed e rest _
  · rw [hpull] at hfollowed
    generalize pull mode (s.extend (';' :: y)) = p at hfollowed
    cases hfollowed with
    | token => exact .token _ _
    | filename name hc => cases hc

/-! ## The tokens of two lines -/

theorem Pulls.extend {s last : Scanner} {ts : List Token} (h : Pulls mode s ts last)
    (hready : s.Ready) (y : Text) :
    Pulls mode (s.extend (';' :: y)) ts (last.extend (';' :: y)) := by
  induction h with
  | nil s => exact .nil _
  | @cons s t middle ts last hpull h ih =>
      have hextended := hready.extended mode y
      rw [hpull] at hextended
      generalize hpull' : pull mode (s.extend (';' :: y)) = p at hextended
      cases hextended with
      | token t after => exact .cons hpull' (ih (hready.pulled hpull).2)

theorem Ready.pull_semicolon {s last : Scanner} (h : s.Ready) (hpull : pull mode s = (none, last))
    (y : Text) : pull mode (s.extend (';' :: y)) = (some (.ok semicolon), .start y) := by
  have hextended := h.extended mode y
  rw [hpull] at hextended
  generalize pull mode (s.extend (';' :: y)) = p at hextended
  cases hextended with
  | ended => rfl

end Scanner

open Scanner

theorem scan_of_pulls {mode : Mode} {line : Text} {ts : List Token} {last : Scanner}
    (h : Pulls mode (.start line) ts last) :
    scan mode line = (ts ++ (drain mode last).1, (drain mode last).2.1) := by
  rw [scan, h.drain_eq]

theorem scan_of_pulls_ended {mode : Mode} {line : Text} {ts : List Token} {last after : Scanner}
    (h : Pulls mode (.start line) ts last) (hends : Ends mode last none after) :
    scan mode line = (ts, none) := by
  cases hends with
  | line hpull => rw [scan_of_pulls h, drain_of_ended hpull, List.append_nil]

/-- The tokens of a line come first in a line that goes on with a semicolon. -/
theorem exists_scan_append (mode : Mode) (x y : Text) :
    ∃ us failure, scan mode (x ++ ';' :: y) = ((scan mode x).1 ++ us, failure) := by
  obtain ⟨last, hpulls, -⟩ := exists_pulls mode (.start x)
  exact ⟨_, _, scan_of_pulls (hpulls.extend (ready_command x) y)⟩

theorem scan_append {mode : Mode} {x : Text} {ts : List Token} (h : scan mode x = (ts, none))
    (y : Text) :
    scan mode (x ++ ';' :: y) = (ts ++ semicolon :: (scan mode y).1, (scan mode y).2) := by
  obtain ⟨last, after, hpulls, hends⟩ := exists_pulls_of_scan h
  have hready := (hpulls.layout (ready_command x)).2
  cases hends with
  | line hpull =>
      have hsemicolon := drain_of_token (hready.pull_semicolon hpull y)
      have hscan := scan_of_pulls (hpulls.extend (ready_command x) y)
      rw [hsemicolon] at hscan
      exact hscan

namespace Reading

/-! ## Statements that were read before -/

/-- A reading with statements in front of those that it has completed. -/
def after (c : List Statement) (r : Reading) : Reading := { r with complete := c ++ r.complete }

variable (c : List Statement) (r : Reading)

theorem close_after : (r.after c).close = r.close.after c := by
  unfold close after
  dsimp only
  split <;> simp

theorem addPlaceholder_after (slot : Slot) (completion : Option Text) :
    (r.after c).addPlaceholder slot completion =
      (r.addPlaceholder slot completion).map (after c) := by
  unfold addPlaceholder
  split <;> simp_all [after, addSegment, Except.map]

theorem setOutput_after (file : Text) :
    (r.after c).setOutput file = (r.setOutput file).map (after c) := by
  unfold setOutput
  split <;> simp_all [after, Except.map]

theorem stepWords_after (t : Token) :
    (r.after c).stepWords t = (r.stepWords t).map (after c) := by
  obtain ⟨kind, text⟩ := t
  cases kind with
  | separator => exact congrArg Except.ok (close_after c r)
  | placeholder =>
      simp only [stepWords]
      cases slotOf text <;> rfl
  | _ => rfl

theorem step_after (t : Token) : (r.after c).step t = (r.step t).map (after c) := by
  have hexpecting : (r.after c).expecting = r.expecting := rfl
  have haddFilter (f : FilterCall) : (r.after c).addFilter f = (r.addFilter f).after c := rfl
  obtain ⟨kind, text⟩ := t
  unfold step
  rw [hexpecting]
  cases r.expecting with
  | statement =>
      cases kind with
      | word => exact stepWords_after c r _
      | quoted => exact stepWords_after c r _
      | _ => rfl
  | words => exact stepWords_after c r _
  | completion slot =>
      simp only [addPlaceholder_after]
      split
      · rfl
      · cases r.addPlaceholder slot none with
        | error e => rfl
        | ok r' => exact stepWords_after c r' _
  | filterName =>
      dsimp only
      split <;> rfl
  | filterArgs f =>
      simp only [haddFilter, stepWords_after]
      cases kind <;> rfl
  | filename =>
      dsimp only
      split
      · exact setOutput_after c r text
      · rfl
  | separator =>
      cases kind with
      | separator => exact congrArg Except.ok (close_after c r)
      | _ => rfl

theorem steps_after (ts : List Token) : (r.after c).steps ts = (r.steps ts).map (after c) := by
  induction ts generalizing r with
  | nil => rfl
  | cons t ts ih =>
      rw [steps_cons, steps_cons, step_after]
      cases r.step t with
      | error e => rfl
      | ok r' => exact ih r'

theorem finish_after : (r.after c).finish = r.finish.map (c ++ ·) := by
  have hexpecting : (r.after c).expecting = r.expecting := rfl
  have haddFilter (f : FilterCall) : (r.after c).addFilter f = (r.addFilter f).after c := rfl
  unfold finish
  rw [hexpecting]
  simp only [close_after, addPlaceholder_after, haddFilter]
  cases r.expecting with
  | completion slot =>
      dsimp only
      cases r.addPlaceholder slot none with
      | error e => rfl
      | ok q => exact congrArg (fun q => Except.ok q.complete) (close_after c q)
  | _ => rfl

theorem step_separator_of_statement {r : Reading} {t : Token} (ht : t.kind = .separator)
    (hr : r.expecting = .statement) : r.step t = .error (.unexpectedToken t) := by
  obtain ⟨kind, text⟩ := t
  cases ht
  simp [step, hr]

/-- Anywhere but in front of a statement, a separator does what the end of the
line would do, and the reading goes on. -/
theorem step_separator {r : Reading} {t : Token} (ht : t.kind = .separator)
    (hr : r.expecting ≠ .statement) : r.step t = r.finish.map start.after := by
  have hclose (q : Reading) : q.close = start.after q.close.complete := by
    simp [close, after, start]
  obtain ⟨kind, text⟩ := t
  cases ht
  unfold step finish
  cases hexpecting : r.expecting with
  | statement => exact absurd hexpecting hr
  | words => exact congrArg Except.ok (hclose r)
  | completion slot =>
      dsimp only
      cases r.addPlaceholder slot none with
      | error e => rfl
      | ok q => exact congrArg Except.ok (hclose q)
  | filterName => rfl
  | filterArgs f => exact congrArg Except.ok (hclose _)
  | filename => rfl
  | separator => exact congrArg Except.ok (hclose r)

end Reading

namespace Statement

open Reading

/-- Tokens behind a separator are read as a line of their own. -/
theorem ofTokens_append {ts : List Token} {t : Token} (ht : t.kind = .separator) {r : Reading}
    (hr : start.steps ts = .ok r) (hexpecting : r.expecting ≠ .statement) (us : List Token)
    (failure : Option ScanError) :
    ofTokens (ts ++ t :: us) failure =
      r.finish.bind fun ss => (ofTokens us failure).map (ss ++ ·) := by
  have hsteps : start.steps (ts ++ t :: us) =
      r.finish.bind fun ss => (start.steps us).map (after ss) := by
    rw [steps_append, hr]
    simp only [Except.bind, steps_cons, step_separator ht hexpecting]
    cases r.finish with
    | error e => rfl
    | ok ss => exact steps_after ss start us
  unfold ofTokens
  rw [hsteps]
  cases r.finish with
  | error e => rfl
  | ok ss =>
      cases start.steps us with
      | error e => rfl
      | ok q =>
          cases failure with
          | some e => rfl
          | none => exact finish_after ss q

/-- In front of a statement no separator is accepted. -/
theorem expecting_ne_of_ofTokens {ts us : List Token} {t : Token} (ht : t.kind = .separator)
    {r : Reading} (hr : start.steps ts = .ok r) {failure : Option ScanError}
    {ss : List Statement} (h : ofTokens (ts ++ t :: us) failure = .ok ss) :
    r.expecting ≠ .statement := by
  intro hexpecting
  have hstep := step_separator_of_statement ht hexpecting
  simp [ofTokens, steps_append, hr, Except.bind, hstep] at h

/-- Of tokens that are accepted, those on either side of a separator are too. -/
theorem exists_of_ofTokens_append {ts us : List Token} {t : Token} (ht : t.kind = .separator)
    {failure : Option ScanError} {ss : List Statement}
    (h : ofTokens (ts ++ t :: us) failure = .ok ss) :
    ∃ earlier later, ofTokens ts none = .ok earlier ∧ ofTokens us failure = .ok later ∧
      ss = earlier ++ later := by
  cases hsteps : start.steps ts with
  | error e => simp [ofTokens, steps_append, hsteps, Except.bind] at h
  | ok r =>
      rw [ofTokens_append ht hsteps (expecting_ne_of_ofTokens ht hsteps h)] at h
      cases hfinish : r.finish with
      | error e => simp [hfinish, Except.bind] at h
      | ok earlier =>
          cases hlater : ofTokens us failure with
          | error e => simp [hfinish, hlater, Except.bind, Except.map] at h
          | ok later =>
              rw [hfinish, hlater] at h
              cases h
              have hearlier : ofTokens ts none = .ok earlier := by
                rw [ofTokens, hsteps, ← hfinish]
                rfl
              exact ⟨earlier, later, hearlier, rfl, rfl⟩

theorem parse_of_scan {mode : Mode} {line : Text} {ts : List Token} {failure : Option ScanError}
    (h : scan mode line = (ts, failure)) : parse mode line = ofTokens ts failure := by
  rw [parse, h]

variable {mode : Mode}

theorem exists_of_parse_eq_ok {line : Text} {ss : List Statement} (h : parse mode line = .ok ss) :
    ∃ ts r, scan mode line = (ts, none) ∧ start.steps ts = .ok r ∧ r.finish = .ok ss := by
  rcases hscan : scan mode line with ⟨ts, failure⟩
  rw [parse_of_scan hscan, ofTokens] at h
  cases hsteps : start.steps ts with
  | error e => simp [hsteps, Except.bind] at h
  | ok r =>
      rw [hsteps] at h
      cases failure with
      | some cause => simp [Except.bind] at h
      | none => exact ⟨ts, r, rfl, hsteps, h⟩

/-- The three places at which a line can be refused: at a token, at its end
and where the tokens stop. -/
theorem refused_of_parse_eq_error {line : Text} {e : ParseError} (h : parse mode line = .error e) :
    start.steps (scan mode line).1 = .error e ∨
    (∃ ts r, scan mode line = (ts, none) ∧ start.steps ts = .ok r ∧ r.finish = .error e) ∨
    ∃ cause, e = .scan cause := by
  rcases hscan : scan mode line with ⟨ts, failure⟩
  rw [parse_of_scan hscan, ofTokens] at h
  cases hsteps : start.steps ts with
  | error cause =>
      rw [hsteps] at h
      cases h
      exact .inl rfl
  | ok r =>
      rw [hsteps] at h
      cases failure with
      | some cause =>
          cases h
          exact .inr (.inr ⟨cause, rfl⟩)
      | none => exact .inr (.inl ⟨ts, r, rfl, hsteps, h⟩)

/-- What a line that can be divided into tokens means to the line behind it. -/
theorem parse_append {x : Text} {ts : List Token} {r : Reading} (hscan : scan mode x = (ts, none))
    (hsteps : start.steps ts = .ok r) (hexpecting : r.expecting ≠ .statement) (y : Text) :
    parse mode (x ++ ';' :: y) = r.finish.bind fun ss => (parse mode y).map (ss ++ ·) := by
  rw [parse_of_scan (scan_append hscan y), ofTokens_append rfl hsteps hexpecting]
  rfl

/-- Two lines that are joined by a semicolon are read one after the other,
unless the first may not be followed by a semicolon. A line that is refused for
another reason than that it cannot be divided into tokens is refused whatever
follows. -/
theorem parse_append_semicolon (mode : Mode) (x y : Text) :
    (∀ ss us, parse mode x = .ok ss → parse mode (x ++ [';']) = .ok us →
      parse mode (x ++ ';' :: y) = (parse mode y).map (ss ++ ·)) ∧
    ∀ e, parse mode x = .error e → (∀ cause, e ≠ .scan cause) →
      parse mode (x ++ ';' :: y) = .error e := by
  constructor
  · intro ss us hx hsemicolon
    obtain ⟨ts, r, hscan, hsteps, hfinish⟩ := exists_of_parse_eq_ok hx
    -- A reading in front of a statement is one that a semicolon is an error to.
    have hexpecting : r.expecting ≠ .statement := by
      intro hr
      have hstep := step_separator_of_statement (t := Scanner.semicolon) rfl hr
      rw [parse_of_scan (scan_append hscan []), ofTokens, steps_append, hsteps] at hsemicolon
      simp [Except.bind, hstep] at hsemicolon
    rw [parse_append hscan hsteps hexpecting y, hfinish]
    rfl
  · intro e hx hcause
    rcases refused_of_parse_eq_error hx with hsteps | ⟨ts, r, hscan, hsteps, hfinish⟩ | ⟨cause, he⟩
    · obtain ⟨us, failure, hscan⟩ := exists_scan_append mode x y
      rw [parse_of_scan hscan, ofTokens, steps_append, hsteps]
      rfl
    -- In front of a statement the end of the line is no error.
    · have hexpecting : r.expecting ≠ .statement := by
        intro hr
        simp [finish, hr] at hfinish
      rw [parse_append hscan hsteps hexpecting y, hfinish]
      rfl
    · exact absurd he (hcause cause)

/-- A filter and a file with another line behind them, and a name that is
missing in front of one. -/
theorem parse_append_semicolon_pipe :
    parse .input "ls | grep a > b".toList =
      .ok [⟨[.literal "ls".toList], [⟨"grep".toList, ["a".toList]⟩], some "b".toList⟩] ∧
    parse .input "ls | grep a > b; pwd".toList =
      .ok [⟨[.literal "ls".toList], [⟨"grep".toList, ["a".toList]⟩], some "b".toList⟩,
        ⟨[.literal "pwd".toList], [], none⟩] ∧
    parse .input "ls | ; 'oops".toList = .error .expectedFilterName := by
  have hx : parse .input "ls | grep a > b".toList =
      .ok [⟨[.literal "ls".toList], [⟨"grep".toList, ["a".toList]⟩], some "b".toList⟩] := by cbv
  have hsemicolon : parse .input ("ls | grep a > b".toList ++ [';']) =
      .ok [⟨[.literal "ls".toList], [⟨"grep".toList, ["a".toList]⟩], some "b".toList⟩] := by cbv
  have hy : parse .input " pwd".toList = .ok [⟨[.literal "pwd".toList], [], none⟩] := by cbv
  have hpipe : parse .input "ls | ".toList = .error .expectedFilterName := by cbv
  refine ⟨hx, ?_, ?_⟩
  · have happend := (parse_append_semicolon .input _ " pwd".toList).1 _ _ hx hsemicolon
    rw [hy] at happend
    exact happend
  · exact (parse_append_semicolon .input _ " 'oops".toList).2 _ hpipe (by simp)

end Statement

end MenuLine
