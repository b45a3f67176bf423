import MenuLine.Token.Layout
import Mathlib.Data.List.TakeWhile
import Mathlib.Logic.Function.Iterate

/-!
# Nothing of a line is lost

Whatever a scanner is pulled for, its answer is a token that stands at the
beginning of what was left of the line, the end of a line of which only blanks
were left, or an error. The main statement `Scanner.layout_of_pulls` follows a
line from its first pull to the last and beyond.
-/

namespace MenuLine

namespace Text

theorem blank_nil : Blank [] := fun _ hc => absurd hc List.not_mem_nil

theorem blank_space : Blank [' '] := by
  simp [Blank, isBlank]

theorem Blank.append {t u : Text} (ht : t.Blank) (hu : u.Blank) : Blank (t ++ u) := by
  intro c hc
  rcases List.mem_append.1 hc with hc | hc
  · exact ht c hc
  · exact hu c hc

theorem blank_takeWhile (t : Text) : Blank (t.takeWhile isBlank) :=
  List.all_eq_true.1 List.all_takeWhile

end Text

theorem head?_dropWhile (p : Char → Bool) (t : Text) :
    ∀ c ∈ (t.dropWhile p).head?, p c = false := by
  intro c hc
  have hhead := List.head?_dropWhile_not p t
  rw [Option.mem_def.1 hc] at hhead
  exact hhead

theorem takeWhile_append_of_stop {p : Char → Bool} {t u : Text} (ht : ∀ c ∈ t, p c = true)
    (hu : ∀ c ∈ u.head?, p c = false) : (t ++ u).takeWhile p = t := by
  rw [List.takeWhile_append_of_pos ht]
  cases u with
  | nil => simp
  | cons c r => simp [hu c rfl]

theorem dropWhile_append_of_stop {p : Char → Bool} {t u : Text} (ht : ∀ c ∈ t, p c = true)
    (hu : ∀ c ∈ u.head?, p c = false) : (t ++ u).dropWhile p = u := by
  rw [List.dropWhile_append_of_pos ht]
  cases u with
  | nil => simp
  | cons c r => simp [hu c rfl]

theorem Piece.skip {mode : Mode} {line rest before : Text} {t : Token} (hbefore : before.Blank)
    (h : Piece mode line t rest) : Piece mode (before ++ line) t rest := by
  obtain ⟨hblank, hsource, hne, hspelled, hafter, hstop⟩ := h
  rw [← List.append_assoc]
  exact .mk (hbefore.append hblank) hsource hne hspelled hafter hstop

theorem Layout.exists_append {mode : Mode} {line rest : Text} {ts : List Token}
    (h : Layout mode line ts rest) : ∃ front, line = front ++ rest := by
  induction h with
  | nil rest => exact ⟨[], rfl⟩
  | @cons line t middle ts rest hpiece h ih =>
      obtain ⟨front, rfl⟩ := ih
      obtain @⟨_, before, source, after, _, -, -, -, -, -, -⟩ := hpiece
      exact ⟨before ++ (source ++ (after ++ front)), by simp⟩

/-- A line without continuations has no characters but blanks and those that its
tokens are written with. -/
theorem Layout.forall_mem {mode : Mode} {line rest : Text} {ts : List Token}
    (h : Layout mode line ts rest) {p : Char → Prop} (hblank : ∀ c, isBlank c = true → p c)
    (hts : ∀ t ∈ ts, t.kind ≠ .continuation ∧ ∀ c ∈ t.source, p c) (hrest : ∀ c ∈ rest, p c) :
    ∀ c ∈ line, p c := by
  induction h with
  | nil rest => exact hrest
  | @cons line t middle ts rest hpiece h ih =>
      obtain ⟨ht, hts⟩ := List.forall_mem_cons.1 hts
      have hmiddle := ih hts hrest
      obtain @⟨_, before, source, after, middle, hbefore, hsource, -, -, hafter, -⟩ := hpiece
      have hwritten : ∀ c ∈ source, p c := by
        cases hsource with
        | source _ => exact ht.2
        | continuation hkind => exact absurd hkind ht.1
      intro c hc
      simp only [List.mem_append] at hc
      rcases hc with hc | hc | hc | hc
      · exact hblank c (hbefore c hc)
      · exact hwritten c hc
      · exact hblank c (hafter c hc)
      · exact hmiddle c hc

namespace Scanner

/-- A scanner that can still be pulled. The colon in front of a completion
type has been seen before it is looked for. -/
structure Ready (s : Scanner) : Prop where
  going : s.phase ≠ .done
  colon : s.phase = .completionType → ∃ r, s.rest = ':' :: r

theorem ready_command (rest : Text) : Ready ⟨rest, .command⟩ :=
  ⟨by simp, by simp⟩

theorem ready_placeholder (rest : Text) : Ready ⟨rest, phaseAfterPlaceholder rest⟩ := by
  unfold phaseAfterPlaceholder
  split
  · next r => exact ⟨by simp, fun _ => ⟨r, rfl⟩⟩
  · exact ready_command rest

/-- What a pull from a line can come to. -/
inductive Outcome (mode : Mode) (line : Text) : Pull → Prop where
  | token {t : Token} {after : Scanner} (hpiece : Piece mode line t after.rest)
      (hready : after.Ready) : Outcome mode line (some (.ok t), after)
  | ended (hblank : line.Blank) : Outcome mode line ended
  | failed (e : ScanError) (rest : Text) : Outcome mode line (failed e rest)

variable {mode : Mode}

theorem Outcome.skip {line before : Text} {p : Pull} (hbefore : before.Blank)
    (h : Outcome mode line p) : Outcome mode (before ++ line) p := by
  cases h with
  | token hpiece hready => exact .token (hpiece.skip hbefore) hready
  | ended hblank => exact .ended (hbefore.append hblank)
  | failed e rest => exact .failed e rest

/-- Blanks that are passed over may be put back. -/
theorem Outcome.of_dropWhile {line : Text} {p : Pull}
    (h : Outcome mode (line.dropWhile isBlank) p) : Outcome mode line p := by
  have hskip := h.skip (Text.blank_takeWhile line)
  rwa [List.takeWhile_append_dropWhile] at hskip

/-! ## One kind of token at a time -/

theorem outcome_token {kind : TokenKind} {text source rest : Text} {phase : Phase}
    (hsource : Token.WrittenAs ⟨kind, text⟩ source) (hne : source ≠ [])
    (hspelled : Token.WellSpelled mode ⟨kind, text⟩)
    (hstop : ∀ c ∈ rest.head?, kind.takes mode c = false) (hready : Ready ⟨rest, phase⟩) :
    Outcome mode (source ++ rest) (token kind text rest phase) :=
  .token (.mk Text.blank_nil hsource hne hspelled Text.blank_nil hstop) hready

/-- Separators, pipes and redirects are single characters. -/
theorem outcome_single {kind : TokenKind} {c : Char} {rest : Text} {phase : Phase}
    (hkind : kind = .separator ∨ kind = .pipe ∨ kind = .redirect)
    (hready : Ready ⟨rest, phase⟩) :
    Outcome mode (c :: rest) (token kind [c] rest phase) := by
  have hsource : Token.WrittenAs ⟨kind, [c]⟩ [c] := by
    rcases hkind with rfl | rfl | rfl <;> exact .source (by simp)
  refine outcome_token hsource (by simp) ?_ ?_ hready
  · rcases hkind with rfl | rfl | rfl <;> simp [Token.WellSpelled]
  · rcases hkind with rfl | rfl | rfl <;> exact fun _ _ => rfl

theorem outcome_pullWord {c : Char} (hc : isWordChar mode c = true) (rest : Text) :
    Outcome mode (c :: rest) (pullWord mode c rest) := by
  have hline : c :: rest =
      (c :: rest.takeWhile (isWordChar mode)) ++ rest.dropWhile (isWordChar mode) := by
    rw [List.cons_append, List.takeWhile_append_dropWhile]
  rw [hline]
  refine outcome_token (.source (by simp)) (by simp) ?_ (head?_dropWhile _ rest)
    (ready_command _)
  intro _
  refine ⟨by simp, fun d hd => ?_⟩
  rcases List.mem_cons.1 hd with rfl | hd
  · exact hc
  · exact List.mem_takeWhile_imp hd

theorem outcome_pullQuoted (quote : Char) (rest : Text) :
    Outcome mode (quote :: rest) (pullQuoted quote rest) := by
  unfold pullQuoted
  split
  · exact .failed _ _
  · next body after hsplit =>
      rw [append_of_splitQuote hsplit, ← List.cons_append]
      exact outcome_token (.source (by simp)) (by simp) (by simp [Token.WellSpelled])
        (fun _ _ => rfl) (ready_command after)

theorem outcome_pullPlaceholder (rest : Text) :
    Outcome mode ('$' :: rest) (pullPlaceholder rest) := by
  have hplaceholder (text after : Text) : Outcome mode ('$' :: (text ++ after))
      (token .placeholder text after (phaseAfterPlaceholder after)) := by
    have hsource : Token.WrittenAs ⟨.placeholder, text⟩ ('$' :: text) := .source (by simp)
    exact outcome_token hsource (by simp) (by simp [Token.WellSpelled]) (fun _ _ => rfl)
      (ready_placeholder after)
  fun_cases pullPlaceholder rest with
  | case1 => exact .failed _ _
  | case2 rest => exact hplaceholder ['*'] rest
  | case3 c rest hc hd after =>
      have hrest : c :: rest = (c :: rest.takeWhile Char.isDigit) ++ after := by
        rw [List.cons_append, List.takeWhile_append_dropWhile]
      rw [hrest]
      exact hplaceholder _ after
  | case4 => exact .failed _ _

theorem outcome_continuation {rest : Text} (hend : (rest.head?.map isLineEnd).getD false = true) :
    Outcome mode ('\\' :: rest) (token .continuation [] (rest.dropWhile isLineEnd) .command) := by
  have hends : rest.takeWhile isLineEnd ≠ [] := by
    cases rest with
    | nil => simp at hend
    | cons c r => simpa [List.takeWhile_cons] using hend
  have hline : '\\' :: rest =
      ('\\' :: rest.takeWhile isLineEnd) ++ rest.dropWhile isLineEnd := by
    rw [List.cons_append, List.takeWhile_append_dropWhile]
  rw [hline]
  exact outcome_token (.continuation rfl hends fun c hc => List.mem_takeWhile_imp hc) (by simp)
    (by simp [Token.WellSpelled]) (head?_dropWhile _ rest) (ready_command _)

theorem isWordChar_of_command {c : Char} (hblank : isBlank c = false) (hend : isLineEnd c = false)
    (hspecial : c ≠ ';' ∧ c ≠ '|' ∧ c ≠ '>')
    (hdollar : ¬ (c = '$' && mode = .description) = true) : isWordChar mode c = true := by
  obtain ⟨hsemicolon, hpipe, hredirect⟩ := hspecial
  have hmode : c = '$' → mode = .input := by
    intro hc
    cases mode
    · simp [hc] at hdollar
    · rfl
  by_cases hc : c = '$'
  · rw [hmode hc, hc]
    rfl
  · simp [isWordChar, hblank, hend, hsemicolon, hpipe, hredirect, hc]

theorem outcome_pullCommand (rest : Text) : Outcome mode rest (pullCommand mode rest) := by
  have hblank := head?_dropWhile isBlank rest
  apply Outcome.of_dropWhile
  unfold pullCommand
  split
  · next h =>
      rw [h]
      exact .ended Text.blank_nil
  · next c r h =>
      rw [h] at hblank ⊢
      split
      · exact outcome_pullQuoted c r
      split
      · next hc => exact hc ▸ outcome_single (by simp) (ready_command r)
      split
      · next hc => exact hc ▸ outcome_single (by simp) ⟨by simp, by simp⟩
      split
      · next hc => exact hc ▸ outcome_single (by simp) ⟨by simp, by simp⟩
      split
      · next hdollar =>
          simp only [Bool.and_eq_true, decide_eq_true_eq] at hdollar
          exact hdollar.1 ▸ outcome_pullPlaceholder r
      split
      · next hslash =>
          simp only [Bool.and_eq_true, decide_eq_true_eq] at hslash
          exact hslash.1 ▸ outcome_continuation hslash.2
      split
      · exact outcome_single (by simp) (ready_command r)
      · next hsemicolon hpipe hredirect hdollar _ hend =>
          have hword := isWordChar_of_command (hblank c rfl) (Bool.eq_false_iff.2 hend)
            ⟨hsemicolon, hpipe, hredirect⟩ hdollar
          exact outcome_pullWord hword r

theorem outcome_pullFilterName (rest : Text) : Outcome mode rest (pullFilterName mode rest) := by
  apply Outcome.of_dropWhile
  unfold pullFilterName
  split
  · next h =>
      rw [h]
      exact .ended Text.blank_nil
  · next c r h =>
      rw [h]
      split
      · next hc => exact outcome_pullWord hc r
      split
      · next hc => exact hc ▸ outcome_single (by simp) ⟨by simp, by simp⟩
      split
      · next hc => exact hc ▸ outcome_single (by simp) (ready_command r)
      · exact .failed _ _

/-- The name of a file, with the blank behind it that goes with it. -/
theorem outcome_filename {name rest : Text} (after : Text) (hne : name ≠ [])
    (hname : ∀ c ∈ name, isWordChar mode c = true) (hafter : after.Blank)
    (hstop : ∀ c ∈ (after ++ rest).head?, isWordChar mode c = false) :
    Outcome mode (name ++ (after ++ rest)) (token .filename name rest .command) :=
  .token (.mk Text.blank_nil (.source (by simp)) hne (fun _ => ⟨hne, hname⟩) hafter hstop)
    (ready_command rest)

theorem outcome_pullFilename (rest : Text) : Outcome mode rest (pullFilename mode rest) := by
  have hblank := head?_dropWhile isBlank rest
  apply Outcome.of_dropWhile
  unfold pullFilename
  generalize rest.dropWhile isBlank = line at hblank ⊢
  have hline := List.takeWhile_append_dropWhile (p := isWordChar mode) (l := line)
  have hname : ∀ c ∈ line.takeWhile (isWordChar mode), isWordChar mode c = true :=
    fun c hc => List.mem_takeWhile_imp hc
  have hstop := head?_dropWhile (isWordChar mode) line
  dsimp only
  generalize line.takeWhile (isWordChar mode) = name at hline hname ⊢
  split
  · next h =>
      rw [h] at hline
      subst hline
      split
      · next hn =>
          rw [hn]
          exact .ended Text.blank_nil
      · next hn => exact outcome_filename [] hn hname Text.blank_nil (by simp)
  · next c r h =>
      rw [h] at hline hstop
      have hc : isWordChar mode c = false := hstop c rfl
      subst hline
      split
      -- The one blank that goes with a name is read together with it.
      · next hb =>
          by_cases hn : name = []
          · subst hn
            exact absurd (hblank c rfl) (by simp [hb])
          · refine outcome_filename [c] hn hname ?_ (by simpa using hc)
            simpa [Text.Blank] using hb
      split
      · split
        -- Without a name, the line goes on as if no file had been asked for.
        · next hn =>
            subst hn
            exact outcome_pullCommand _
        · next hn => exact outcome_filename [] hn hname Text.blank_nil (by simpa using hc)
      · exact .failed _ _

theorem outcome_pullCompletionType (rest : Text) :
    Outcome mode (':' :: rest) (pullCompletionType (':' :: rest)) := by
  have hname : Outcome mode ((':' :: rest.takeWhile isNameChar) ++ rest.dropWhile isNameChar)
      (pullCompletionType (':' :: rest)) :=
    outcome_token (.source (t := ⟨.completionType, rest.takeWhile isNameChar⟩) (by simp))
      (by simp) (by simp [Token.WellSpelled]) (head?_dropWhile _ rest) (ready_command _)
  rwa [List.cons_append, List.takeWhile_append_dropWhile] at hname

theorem Ready.outcome {s : Scanner} (h : s.Ready) (mode : Mode) :
    Outcome mode s.rest (pull mode s) := by
  obtain ⟨rest, phase⟩ := s
  cases phase with
  | command => exact outcome_pullCommand rest
  | filterName => exact outcome_pullFilterName rest
  | filename => exact outcome_pullFilename rest
  | completionType =>
      obtain ⟨r, rfl⟩ := h.colon rfl
      exact outcome_pullCompletionType r
  | done => exact absurd rfl h.going

/-! ## Any number of pulls -/

theorem Ready.pulled {s after : Scanner} {t : Token} (h : s.Ready)
    (hpull : pull mode s = (some (.ok t), after)) :
    Piece mode s.rest t after.rest ∧ after.Ready := by
  have houtcome := h.outcome mode
  rw [hpull] at houtcome
  cases houtcome with
  | token hpiece hready => exact ⟨hpiece, hready⟩

theorem Pulls.layout {s last : Scanner} {ts : List Token} (h : Pulls mode s ts last)
    (hready : s.Ready) : Layout mode s.rest ts last.rest ∧ last.Ready := by
  induction h with
  | nil s => exact ⟨.nil _, hready⟩
  | cons hpull h ih =>
      obtain ⟨hpiece, hmiddle⟩ := hready.pulled hpull
      obtain ⟨hlayout, hlast⟩ := ih hmiddle
      exact ⟨.cons hpiece hlayout, hlast⟩

/-- Blanks in front of a token that is no completion type are passed over. -/
theorem pull_blank_append {phase : Phase} (hphase : phase ≠ .completionType ∧ phase ≠ .done)
    {before : Text} (hbefore : before.Blank) (rest : Text) :
    pull mode ⟨before ++ rest, phase⟩ = pull mode ⟨rest, phase⟩ := by
  have hdrop : (before ++ rest).dropWhile isBlank = rest.dropWhile isBlank :=
    List.dropWhile_append_of_pos hbefore
  cases phase with
  | command => simp only [pull, pullCommand, hdrop]
  | filterName => simp only [pull, pullFilterName, hdrop]
  | filename => simp only [pull, pullFilename, hdrop]
  | completionType => exact absurd rfl hphase.1
  | done => exact absurd rfl hphase.2

theorem scan_blank_append {before : Text} (h : before.Blank) (rest : Text) :
    scan mode (before ++ rest) = scan mode rest := by
  have hpull : pull mode (.start (before ++ rest)) = pull mode (.start rest) :=
    pull_blank_append (by simp) h rest
  rw [scan, drain_of_pull_eq hpull]
  rfl

theorem Pulls.append {s middle last : Scanner} {ts us : List Token}
    (h : Pulls mode s ts middle) (hrest : Pulls mode middle us last) :
    Pulls mode s (ts ++ us) last := by
  induction h with
  | nil s => exact hrest
  | cons hpull h ih => exact .cons hpull (ih hrest)

/-- A run of pulls can be interrupted behind each of its tokens. -/
theorem Pulls.exists_middle {ts us : List Token} {s last : Scanner}
    (h : Pulls mode s (ts ++ us) last) :
    ∃ middle, Pulls mode s ts middle ∧ Pulls mode middle us last := by
  induction ts generalizing s with
  | nil => exact ⟨s, .nil s, h⟩
  | cons t ts ih =>
      rw [List.cons_append] at h
      cases h with
      | cons hpull hrest =>
          obtain ⟨middle, hfirst, hsecond⟩ := ih hrest
          exact ⟨middle, .cons hpull hfirst, hsecond⟩

/-- Why no token comes from a scanner, and the scanner that is left. -/
inductive Ends (mode : Mode) (s : Scanner) : Option ScanError → Scanner → Prop where
  | line {last : Scanner} (hpull : pull mode s = (none, last)) : Ends mode s none last
  | failure {e : ScanError} {last : Scanner} (hpull : pull mode s = (some (.error e), last)) :
      Ends mode s (some e) last

/-- A scanner can be pulled until no token comes. -/
theorem exists_pulls (mode : Mode) (s : Scanner) :
    ∃ last, Pulls mode s (drain mode s).1 last ∧
      Ends mode last (drain mode s).2.1 (drain mode s).2.2 := by
  fun_induction drain mode s with
  | case1 s after h => exact ⟨s, .nil s, .line h⟩
  | case2 s e after h => exact ⟨s, .nil s, .failure h⟩
  | case3 s t after h tokens rest hrest ih =>
      rw [hrest] at ih
      obtain ⟨last, hpulls, hends⟩ := ih
      exact ⟨last, .cons h hpulls, hends⟩

theorem exists_pulls_of_scan {line : Text} {ts : List Token} {failure : Option ScanError}
    (h : scan mode line = (ts, failure)) :
    ∃ last after, Pulls mode (.start line) ts last ∧ Ends mode last failure after := by
  obtain ⟨last, hpulls, hends⟩ := exists_pulls mode (.start line)
  have hts : (drain mode (.start line)).1 = ts := congrArg Prod.fst h
  have hfailure : (drain mode (.start line)).2.1 = failure := congrArg Prod.snd h
  rw [hts] at hpulls
  rw [hfailure] at hends
  exact ⟨last, _, hpulls, hends⟩

theorem Ready.ended {s last : Scanner} (h : s.Ready) (hpull : pull mode s = (none, last)) :
    s.rest.Blank ∧ last = ⟨[], .done⟩ := by
  have houtcome := h.outcome mode
  rw [hpull] at houtcome
  cases houtcome with
  | ended hblank => exact ⟨hblank, rfl⟩

theorem Ready.phase_of_ends {s last : Scanner} {failure : Option ScanError} (h : s.Ready)
    (hends : Ends mode s failure last) : last.phase = .done := by
  cases hends with
  | line hpull => rw [(h.ended hpull).2]
  | failure hpull =>
      have houtcome := h.outcome mode
      rw [hpull] at houtcome
      cases houtcome with
      | failed e rest => rfl

/-- A scanner that is done stays as it is, however often it is pulled. -/
theorem pull_iterate_of_done {s : Scanner} (h : s.phase = .done) (k : ℕ) :
    pull mode ((fun s => (pull mode s).2)^[k] s) = (none, s) := by
  have hpull : pull mode s = (none, s) := by
    unfold pull
    rw [h]
  have hfixed : (fun s => (pull mode s).2) s = s := congrArg Prod.snd hpull
  rw [Function.iterate_fixed hfixed k]
  exact hpull

/-- A line is made of the tokens that have been pulled, each as it is written
and with blanks around it, and of the rest that has not been read. The tokens
of the line end where nothing but blanks is left or with an error, and no pull
after that hands out anything. -/
theorem layout_of_pulls (mode : Mode) (line : Text) :
    (∀ ts s, Pulls mode (.start line) ts s →
      Layout mode line ts s.rest ∧ ts.length + s.rest.length ≤ line.length) ∧
    ∃ s last, Pulls mode (.start line) (scan mode line).1 s ∧
      ((pull mode s = (none, last) ∧ (scan mode line).2 = none ∧ s.rest.Blank ∧ last.rest = []) ∨
        ∃ e, pull mode s = (some (.error e), last) ∧ (scan mode line).2 = some e) ∧
      ∀ k : ℕ, pull mode ((fun s => (pull mode s).2)^[k] last) = (none, last) := by
  have hready : (Scanner.start line).Ready := ready_command line
  constructor
  · intro ts s hpulls
    have hlayout := (hpulls.layout hready).1
    exact ⟨hlayout, hlayout.length_le⟩
  · obtain ⟨s, hpulls, hends⟩ := exists_pulls mode (.start line)
    have hs := (hpulls.layout hready).2
    refine ⟨s, _, hpulls, ?_, pull_iterate_of_done (hs.phase_of_ends hends)⟩
    generalize hdrain : drain mode (.start line) = drained at hends
    obtain ⟨tokens, failure, last⟩ := drained
    have hscan : (scan mode line).2 = failure := by
      rw [scan, hdrain]
    rw [hscan]
    cases hends with
    | line hpull =>
        obtain ⟨hblank, hlast⟩ := hs.ended hpull
        exact .inl ⟨hpull, rfl, hblank, congrArg Scanner.rest hlast⟩
    | failure hpull => exact .inr ⟨_, hpull, rfl⟩

end Scanner

end MenuLine
