import MenuLine.Proofs.Grammar
import MenuLine.Proofs.Respelling

/-!
# Blanks and continuations

Blanks between two tokens may be replaced by a continuation, unless they stand
behind a pipe or a redirect. There a backslash is a name like any other, and the
end of the line behind it ends the statement. The main statement is
`Statement.parse_continuation`.
-/

namespace MenuLine

namespace Scanner

/-- The phase in which a token of user input leaves the scanner. -/
def phaseBehind : TokenKind → Phase
  | .pipe => .filterName
  | .redirect => .filename
  | _ => .command

theorem phaseBehind_eq {kind : TokenKind} (hpipe : kind ≠ .pipe) (hredirect : kind ≠ .redirect) :
    phaseBehind kind = .command := by
  cases kind with
  | pipe => exact absurd rfl hpipe
  | redirect => exact absurd rfl hredirect
  | _ => rfl

theorem Leads.phaseBehind {before after : Phase} {t : Token} (h : Leads .input before t after) :
    after = phaseBehind t.kind := by
  cases h with
  | placeholder hmode => cases hmode
  | _ => rfl

variable {mode : Mode} {b : Char}

/-- A blank behind the tokens of a line changes none of them. -/
theorem Pulls.blank {s last : Scanner} {ts : List Token} (h : Pulls mode s ts last)
    (hready : s.Ready) (hb : isBlank b = true) (y : Text) :
    ∃ rest, Pulls mode (s.extend (b :: y)) ts ⟨rest, last.phase⟩ ∧
      (rest = last.rest ++ b :: y ∨ last = ⟨[], .command⟩ ∧ rest = y) := by
  induction h with
  | nil s => exact ⟨_, .nil _, .inl rfl⟩
  | @cons s t middle ts last hpull h ih =>
      have hfollowed := hready.followed mode (.inr hb) y
      rw [hpull] at hfollowed
      generalize hpull' : pull mode (s.extend (b :: y)) = p at hfollowed
      cases hfollowed with
      | token t after =>
          obtain ⟨rest, hpulls, hrest⟩ := ih (hready.pulled hpull).2
          exact ⟨rest, .cons hpull' hpulls, hrest⟩
      | filename name hc =>
          -- Nothing is left behind the name, so it is the last token.
          cases h with
          | nil s => exact ⟨y, .cons hpull' (.nil _), .inr ⟨rfl, rfl⟩⟩
          | cons hnone h => cases hnone

theorem Ready.pull_behind_blank {last after : Scanner} (h : last.Ready)
    (hpull : pull mode last = (none, after)) (hb : isBlank b = true) {rest y : Text}
    (hrest : rest = last.rest ++ b :: y ∨ last = ⟨[], .command⟩ ∧ rest = y) :
    pull mode ⟨rest, last.phase⟩ = pull mode ⟨y, last.phase⟩ := by
  rcases hrest with rfl | ⟨-, rfl⟩
  · have hblank : Text.Blank [b] := by simpa [Text.Blank] using hb
    have hphase := phase_of_pull_none hpull
    calc
      pull mode (last.extend (b :: y)) = pull mode ⟨b :: y, last.phase⟩ := h.pull_extend hpull _
      _ = pull mode ⟨y, last.phase⟩ := pull_blank_append ⟨hphase, h.going⟩ hblank y
  · rfl

end Scanner

open Scanner

/-- What stands behind a blank is read in the phase that the token in front of the
blank leads to. -/
theorem scan_append_blank {x : Text} {ts : List Token} {t : Token} {b : Char}
    (h : scan .input x = (ts ++ [t], none)) (hb : isBlank b = true) (y : Text) :
    scan .input (x ++ b :: y) =
      (ts ++ [t] ++ (drain .input ⟨y, phaseBehind t.kind⟩).1,
        (drain .input ⟨y, phaseBehind t.kind⟩).2.1) := by
  obtain ⟨last, after, hpulls, hends⟩ := exists_pulls_of_scan h
  cases hends with
  | line hpull =>
      have hphase : last.phase = phaseBehind t.kind := by
        obtain ⟨middle, -, hlast⟩ := hpulls.exists_middle
        cases hlast with
        | cons hpull hnil =>
            cases hnil with
            | nil => exact (leads_of_pull hpull).phaseBehind
      have hready := (hpulls.layout (ready_command x)).2
      obtain ⟨rest, hextended, hrest⟩ := hpulls.blank (ready_command x) hb y
      rw [← hphase, ← drain_of_pull_eq (hready.pull_behind_blank hpull hb hrest)]
      exact scan_of_pulls hextended

/-- A run of blanks in a line of user input, behind the token `t` and in front of
the token `u`. -/
structure Gap (front blanks back : Text) (t u : Token) : Prop where
  blank : blanks.Blank
  nonempty : blanks ≠ []
  tokens : ∃ ts us, scan .input front = (ts ++ [t], none) ∧
    scan .input (front ++ (blanks ++ back)) = (ts ++ t :: u :: us, none)

theorem Gap.exists_drain {front blanks back : Text} {t u : Token} (h : Gap front blanks back t u) :
    ∃ ts us, scan .input front = (ts ++ [t], none) ∧
      scan .input (front ++ (blanks ++ back)) = (ts ++ [t] ++ u :: us, none) ∧
      (drain .input ⟨back, phaseBehind t.kind⟩).1 = u :: us ∧
      (drain .input ⟨back, phaseBehind t.kind⟩).2.1 = none := by
  obtain ⟨ts, us, hfront, hline⟩ := h.tokens
  rw [List.append_cons] at hline
  refine ⟨ts, us, hfront, hline, ?_⟩
  obtain ⟨b, bs, rfl⟩ := List.exists_cons_of_ne_nil h.nonempty
  have hb : isBlank b = true := h.blank b List.mem_cons_self
  have hbs : Text.Blank bs := fun c hc => h.blank c (List.mem_cons_of_mem b hc)
  have hphase : phaseBehind t.kind ≠ .completionType ∧ phaseBehind t.kind ≠ .done := by
    cases t.kind <;> simp [phaseBehind]
  rw [List.cons_append, scan_append_blank hfront hb,
    drain_of_pull_eq (pull_blank_append hphase hbs back)] at hline
  obtain ⟨htokens, hfailure⟩ := Prod.ext_iff.1 hline
  exact ⟨List.append_cancel_left htokens, hfailure⟩

theorem isLineEnd_head_of_drain {back : Text} {u : Token} {us : List Token}
    (h : (drain .input ⟨back, .command⟩).1 = u :: us) (hu : u.kind ≠ .separator) :
    ∀ c ∈ back.head?, isLineEnd c = false := by
  intro c hc
  cases back with
  | nil => cases hc
  | cons d r =>
      cases hc
      by_contra hend
      have hpull : pull .input ⟨c :: r, .command⟩ = token .separator [c] r .command :=
        pullCommand_of_ends .input (.inr (by simpa using hend)) r
      rw [drain_of_token hpull] at h
      cases h
      exact hu rfl

theorem drain_continuation {back : Text} {u : Token} {us : List Token}
    (h : (drain .input ⟨back, .command⟩).1 = u :: us) (hu : u.kind ≠ .separator) :
    drain .input ⟨'\\' :: '\n' :: back, .command⟩ =
      (⟨.continuation, []⟩ :: u :: us, (drain .input ⟨back, .command⟩).2) := by
  have hpull : pull .input ⟨'\\' :: '\n' :: back, .command⟩ =
      token .continuation [] back .command :=
    pullCommand_continuation .input (isLineEnd_head_of_drain h hu)
  rw [drain_of_token hpull, h]

/-- A backslash where the name of a filter or a file is expected. -/
def backslash (kind : TokenKind) : Token :=
  ⟨if kind = .pipe then .word else .filename, ['\\']⟩

theorem drain_backslash {kind : TokenKind} (h : kind = .pipe ∨ kind = .redirect) :
    drain .input ⟨['\\'], phaseBehind kind⟩ = ([backslash kind], none, ⟨[], .done⟩) := by
  have hpull : pull .input ⟨['\\'], phaseBehind kind⟩ =
      (some (.ok (backslash kind)), ⟨[], .command⟩) := by
    rcases h with rfl | rfl <;> rfl
  have hended : pull .input ⟨[], .command⟩ = (none, ⟨[], .done⟩) := rfl
  rw [drain_of_token hpull, drain_of_ended hended]

theorem drain_backslash_newline {kind : TokenKind} (h : kind = .pipe ∨ kind = .redirect)
    (back : Text) :
    drain .input ⟨'\\' :: '\n' :: back, phaseBehind kind⟩ =
      (backslash kind :: ⟨.separator, ['\n']⟩ :: (drain .input (.start back)).1,
        (drain .input (.start back)).2) := by
  have hpull : pull .input ⟨'\\' :: '\n' :: back, phaseBehind kind⟩ =
      (some (.ok (backslash kind)), ⟨'\n' :: back, .command⟩) := by
    rcases h with rfl | rfl <;> rfl
  have hends : pull .input ⟨'\n' :: back, .command⟩ =
      (some (.ok ⟨.separator, ['\n']⟩), .start back) := rfl
  rw [drain_of_token hpull, drain_of_token hends]

namespace Reading

theorem sane_of_steps {ts : List Token} (hts : ∀ t ∈ ts, t.kind ≠ .placeholder) {r r' : Reading}
    (hr : r.Sane) (h : r.steps ts = .ok r') : r'.Sane := by
  induction ts generalizing r with
  | nil =>
      cases h
      exact hr
  | cons t ts ih =>
      cases hstep : r.step t with
      | error e =>
          rw [steps_cons, hstep] at h
          cases h
      | ok q =>
          have hmove := hr.moves (hts t List.mem_cons_self) hstep
          rw [Grammar.steps_of_moves hmove] at h
          exact ih (fun u hu => hts u (List.mem_cons_of_mem t hu)) (hmove.sane hr) h

/-- What a reading expects next tells whether a pipe or a redirect was read last. -/
structure Behind (t : Token) (r : Reading) : Prop where
  sane : r.Sane
  pipe : t.kind = .pipe ↔ r.expecting = .filterName
  redirect : t.kind = .redirect ↔ r.expecting = .filename

theorem Moves.behind {q r : Reading} {t : Token} (h : Moves q t r) (hq : q.Sane) : Behind t r := by
  have hword {w : Text} (hw : t.word? = some w) : t.kind ≠ .pipe ∧ t.kind ≠ .redirect := by
    rcases word?_eq_some_iff.1 hw with ⟨hkind, -⟩ | ⟨hkind, -⟩ <;> simp [hkind]
  refine ⟨h.sane hq, ?_, ?_⟩
  · cases h <;> simp_all
  · cases h <;> simp_all

theorem behind_of_steps {ts : List Token} {t : Token} {r : Reading}
    (hts : ∀ u ∈ ts ++ [t], u.kind ≠ .placeholder) (h : start.steps (ts ++ [t]) = .ok r) :
    Behind t r := by
  rw [steps_append] at h
  cases hsteps : start.steps ts with
  | error e =>
      rw [hsteps] at h
      cases h
  | ok q =>
      have hfront : ∀ u ∈ ts, u.kind ≠ .placeholder :=
        fun u hu => hts u (List.mem_append_left [t] hu)
      have hq := sane_of_steps hfront (.statement []) hsteps
      rw [hsteps] at h
      cases hstep : q.step t with
      | error e => simp [Except.bind, hstep] at h
      | ok q' =>
          have hlast : q' = r := by simpa [Except.bind, hstep] using h
          have hmove := hq.moves (hts t (by simp)) hstep
          exact hlast ▸ hmove.behind hq

/-- A continuation may stand wherever a statement goes on, unless a name is
expected. -/
theorem Behind.step_continuation {t u : Token} {r : Reading} (h : Behind t r)
    (hpipe : t.kind ≠ .pipe) (hredirect : t.kind ≠ .redirect) {us : List Token}
    {ss : List Statement} (hremains : Grammar.Remains r (u :: us) ss) (hu : u.kind ≠ .separator) :
    r.step ⟨.continuation, []⟩ = .ok r := by
  cases h.sane with
  | statement c => rfl
  | words hs ho => rfl
  | filterName hs ho => exact absurd (h.pipe.2 rfl) hpipe
  | filterArgs hs ho => rfl
  | filename hs => exact absurd (h.redirect.2 rfl) hredirect
  | separator hs ho =>
      cases hremains with
      | separator hmore =>
          cases hmore with
          | trailing hsep hcs => exact absurd hsep hu
          | cons hsep hcs hstatement hmore => exact absurd hsep hu

/-- Where a name is expected, a backslash is one, and the statement may end
behind it. -/
theorem Behind.step_backslash {t : Token} {r : Reading} (h : Behind t r)
    (ht : t.kind = .pipe ∨ t.kind = .redirect) {us : List Token} {ss : List Statement}
    (hremains : Grammar.Remains r us ss) :
    ∃ q earlier, r.step (backslash t.kind) = .ok q ∧ q.expecting ≠ .statement ∧
      q.finish = .ok earlier := by
  rcases ht with ht | ht
  · have hexpecting := h.pipe.1 ht
    rw [ht]
    cases h.sane with
    | @filterName c s hs ho =>
        have hmove : Moves ⟨c, s, .filterName⟩ (backslash .pipe) _ := .name rfl
        have hcomplete := Complete.opened (.filterArgs (c := c) s ⟨['\\'], []⟩)
        exact ⟨_, _, hmove.step_eq, by simp, hcomplete.finish hs⟩
    | _ => cases hexpecting
  · have hexpecting := h.redirect.1 ht
    rw [ht]
    cases h.sane with
    | @filename c s hs =>
        cases hremains with
        | filename ho hfile hmore =>
            have hmove : Moves ⟨c, s, .filename⟩ (backslash .redirect) _ := .file ho rfl
            have hcomplete := Complete.separator (c := c) { s with output := some ['\\'] }
            exact ⟨_, _, hmove.step_eq, by simp, hcomplete.finish hs⟩
    | _ => cases hexpecting

end Reading

/-- A line that is read across some blanks, interrupted there. -/
structure Across (front back : Text) (t u : Token) (ss : List Statement) (ts us : List Token)
    (r : Reading) : Prop where
  scanned : scan .input front = (ts ++ [t], none)
  tokens : (drain .input ⟨back, phaseBehind t.kind⟩).1 = u :: us
  unfailed : (drain .input ⟨back, phaseBehind t.kind⟩).2.1 = none
  steps : Reading.start.steps (ts ++ [t]) = .ok r
  finish : (r.steps (u :: us)).bind Reading.finish = .ok ss
  behind : Reading.Behind t r
  remains : Grammar.Remains r (u :: us) ss

namespace Statement

open Reading

theorem ofTokens_of_steps {ts us : List Token} {r : Reading} (h : start.steps ts = .ok r) :
    ofTokens (ts ++ us) none = (r.steps us).bind Reading.finish := by
  rw [ofTokens, steps_append, h]
  rfl

theorem exists_across {front blanks back : Text} {t u : Token} (hgap : Gap front blanks back t u)
    {ss : List Statement} (h : parse .input (front ++ (blanks ++ back)) = .ok ss) :
    ∃ ts us r, Across front back t u ss ts us r := by
  obtain ⟨ts, us, hfront, hline, htokens, hfailure⟩ := hgap.exists_drain
  have hplaceholder := kind_ne_placeholder_of_scan hline
  rw [parse_of_scan hline] at h
  cases hsteps : start.steps (ts ++ [t]) with
  | error e =>
      rw [ofTokens, steps_append, hsteps] at h
      cases h
  | ok r =>
      rw [ofTokens_of_steps hsteps] at h
      have hbehind : Behind t r :=
        behind_of_steps (fun v hv => hplaceholder v (List.mem_append_left _ hv)) hsteps
      have hremains : Grammar.Remains r (u :: us) ss :=
        Grammar.remains_of_steps (fun v hv => hplaceholder v (List.mem_append_right _ hv))
          hbehind.sane h
      exact ⟨ts, us, r, hfront, htokens, hfailure, hsteps, h, hbehind, hremains⟩

section

variable {front back : Text} {t u : Token} {ss : List Statement} {ts us : List Token} {r : Reading}

theorem parse_of_across (h : Across front back t u ss ts us r) (hpipe : t.kind ≠ .pipe)
    (hredirect : t.kind ≠ .redirect) (hu : u.kind ≠ .separator) :
    parse .input (front ++ (" \\\n".toList ++ back)) = .ok ss := by
  have hphase := phaseBehind_eq hpipe hredirect
  have htokens := h.tokens
  have hunfailed := h.unfailed
  rw [hphase] at htokens hunfailed
  have hscan := scan_append_blank (b := ' ') h.scanned rfl ('\\' :: '\n' :: back)
  rw [hphase, drain_continuation htokens hu, hunfailed] at hscan
  calc
    parse .input (front ++ ' ' :: '\\' :: '\n' :: back) =
        (r.steps (⟨.continuation, []⟩ :: u :: us)).bind Reading.finish := by
      rw [parse_of_scan hscan, ofTokens_of_steps h.steps]
    _ = (r.steps (u :: us)).bind Reading.finish := by
      rw [steps_cons, h.behind.step_continuation hpipe hredirect h.remains hu]
      rfl
    _ = .ok ss := h.finish

theorem parse_backslash_of_across (h : Across front back t u ss ts us r)
    (ht : t.kind = .pipe ∨ t.kind = .redirect) :
    ∃ earlier, parse .input (front ++ " \\".toList) = .ok earlier ∧
      parse .input (front ++ (" \\\n".toList ++ back)) =
        (parse .input back).map (earlier ++ ·) := by
  obtain ⟨q, earlier, hname, hexpecting, hfinish⟩ := h.behind.step_backslash ht h.remains
  have hsteps : start.steps (ts ++ [t] ++ [backslash t.kind]) = .ok q := by
    rw [steps_append, h.steps]
    simp [Except.bind, hname]
  have hearlier := scan_append_blank (b := ' ') h.scanned rfl ['\\']
  have hline := scan_append_blank (b := ' ') h.scanned rfl ('\\' :: '\n' :: back)
  rw [drain_backslash ht] at hearlier
  rw [drain_backslash_newline ht] at hline
  refine ⟨earlier, ?_, ?_⟩
  · rw [← hfinish]
    have hparse := parse_of_scan hearlier
    rw [← List.append_nil (ts ++ [t] ++ [backslash t.kind]), ofTokens_of_steps hsteps] at hparse
    exact hparse
  · have hparse := parse_of_scan hline
    rw [List.append_cons (ts ++ [t]), ofTokens_append rfl hsteps hexpecting, hfinish] at hparse
    exact hparse

end

/-- A space, a backslash and the end of the line are as good as any blanks between
two tokens of a statement, unless they stand behind a pipe or a redirect. There the
backslash is read as the name of the filter or of the file, and what follows the
blanks is read as a line of its own. -/
theorem parse_continuation {front blanks back : Text} {t u : Token}
    (hgap : Gap front blanks back t u) (hu : u.kind ≠ .separator) {ss : List Statement}
    (h : parse .input (front ++ (blanks ++ back)) = .ok ss) :
    (t.kind ≠ .pipe → t.kind ≠ .redirect →
      parse .input (front ++ (" \\\n".toList ++ back)) = .ok ss) ∧
    (t.kind = .pipe ∨ t.kind = .redirect →
      ∃ earlier, parse .input (front ++ " \\".toList) = .ok earlier ∧
        parse .input (front ++ (" \\\n".toList ++ back)) =
          (parse .input back).map (earlier ++ ·)) := by
  obtain ⟨ts, us, r, hacross⟩ := exists_across hgap h
  constructor
  · intro hpipe hredirect
    exact parse_of_across hacross hpipe hredirect hu
  · exact parse_backslash_of_across hacross

/-- Two blanks in front of a quoted argument, and the blank behind a pipe. -/
theorem parse_continuation_words_and_pipe :
    parse .input "ls | grep  'a b' > f".toList =
        .ok [⟨[.literal "ls".toList], [⟨"grep".toList, ["a b".toList]⟩], some "f".toList⟩] ∧
      parse .input "ls | grep \\\n'a b' > f".toList =
        .ok [⟨[.literal "ls".toList], [⟨"grep".toList, ["a b".toList]⟩], some "f".toList⟩] ∧
      ∃ earlier, parse .input "ls | \\".toList = .ok earlier ∧
        parse .input "ls | \\\ngrep  'a b' > f".toList =
          (parse .input "grep  'a b' > f".toList).map (earlier ++ ·) := by
  have hparse : parse .input "ls | grep  'a b' > f".toList =
      .ok [⟨[.literal "ls".toList], [⟨"grep".toList, ["a b".toList]⟩], some "f".toList⟩] := by cbv
  have hargument : Gap "ls | grep".toList "  ".toList "'a b' > f".toList ⟨.word, "grep".toList⟩
      ⟨.quoted, "'a b'".toList⟩ := by
    refine ⟨by simp [Text.Blank, isBlank], by simp, ?_⟩
    exact ⟨[⟨.word, "ls".toList⟩, ⟨.pipe, ['|']⟩], [⟨.redirect, ['>']⟩, ⟨.filename, ['f']⟩],
      by cbv, by cbv⟩
  have hpipe : Gap "ls |".toList " ".toList "grep  'a b' > f".toList ⟨.pipe, ['|']⟩
      ⟨.word, "grep".toList⟩ := by
    refine ⟨by simp [Text.Blank, isBlank], by simp, ?_⟩
    exact ⟨[⟨.word, "ls".toList⟩],
      [⟨.quoted, "'a b'".toList⟩, ⟨.redirect, ['>']⟩, ⟨.filename, ['f']⟩], by cbv, by cbv⟩
  refine ⟨hparse, ?_, ?_⟩
  · exact (parse_continuation hargument (by simp) hparse).1 (by simp) (by simp)
  · exact (parse_continuation hpipe (by simp) hparse).2 (.inl rfl)

/-- Behind a pipe or a redirect, a continuation is not as good as a blank. -/
theorem parse_continuation_behind_names :
    parse .input "ls > out".toList =
        .ok [⟨[.literal "ls".toList], [], some "out".toList⟩] ∧
      parse .input "ls > \\\nout".toList =
        .ok [⟨[.literal "ls".toList], [], some "\\".toList⟩,
          ⟨[.literal "out".toList], [], none⟩] ∧
    parse .input "ls | grep x".toList =
        .ok [⟨[.literal "ls".toList], [⟨"grep".toList, ["x".toList]⟩], none⟩] ∧
      parse .input "ls | \\\ngrep x".toList =
        .ok [⟨[.literal "ls".toList], [⟨"\\".toList, []⟩], none⟩,
          ⟨["grep", "x"].map fun w => .literal w.toList, [], none⟩] := by
  refine ⟨?_, ?_, ?_, ?_⟩ <;> cbv

end Statement

end MenuLine
