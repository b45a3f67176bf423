import MenuLine.Proofs.Separation

/-!
# How tokens are spelled

What the spelling of a token says about the state in which the scanner was:
`Scanner.Leads` lists the tokens of each phase and the phases behind them. Only
the name of a filter may be a word that begins with a quote, a quoted text
begins with one, and a placeholder is a star or a number. Only a pipe makes the
scanner look for the name of a filter.
-/

namespace MenuLine

namespace Text

/-- A star or the digits of a number. -/
def IsSlot (t : Text) : Prop := t = ['*'] ∨ t ≠ [] ∧ ∀ c ∈ t, c.isDigit = true

/-- Characters of words, at least one of them. -/
def IsWord (mode : Mode) (t : Text) : Prop := t ≠ [] ∧ ∀ c ∈ t, isWordChar mode c = true

end Text

namespace Scanner

/-- A token that may be handed out in one phase and leads to another. -/
inductive Leads (mode : Mode) : Phase → Token → Phase → Prop where
  | word {w} (hword : w.IsWord mode) (hquote : ∀ c ∈ w.head?, isQuote c = false) :
      Leads mode .command ⟨.word, w⟩ .command
  | quoted {quote body} (hquote : isQuote quote = true)
      (hbody : splitQuote quote body = some (body, [])) :
      Leads mode .command ⟨.quoted, quote :: body⟩ .command
  | separator {c} (hc : c = ';' ∨ isLineEnd c = true) :
      Leads mode .command ⟨.separator, [c]⟩ .command
  | pipe : Leads mode .command ⟨.pipe, ['|']⟩ .filterName
  | redirect : Leads mode .command ⟨.redirect, ['>']⟩ .filename
  | continuation : Leads mode .command ⟨.continuation, []⟩ .command
  | placeholder {slot after} (hmode : mode = .description) (hslot : slot.IsSlot)
      (hafter : after = .command ∨ after = .completionType) :
      Leads mode .command ⟨.placeholder, slot⟩ after
  | completionType {name} (hname : ∀ c ∈ name, isNameChar c = true) :
      Leads mode .completionType ⟨.completionType, name⟩ .command
  | filterName {w} (hword : w.IsWord mode) : Leads mode .filterName ⟨.word, w⟩ .command
  /-- The name of the filter is missing. -/
  | nextPipe : Leads mode .filterName ⟨.pipe, ['|']⟩ .filterName
  | noFilter : Leads mode .filterName ⟨.separator, [';']⟩ .command
  | filename {w} (hword : w.IsWord mode) : Leads mode .filename ⟨.filename, w⟩ .command
  | noFile {c} (hc : c = ';' ∨ isLineEnd c = true) :
      Leads mode .filename ⟨.separator, [c]⟩ .command

/-- Whatever token a pull hands out is one of its phase. -/
def Spells (mode : Mode) (before : Phase) (p : Pull) : Prop :=
  ∀ t, p.1 = some (.ok t) → Leads mode before t p.2.phase

variable {mode : Mode} {before : Phase}

theorem spells_token {kind : TokenKind} {text : Text} {after : Phase}
    (h : Leads mode before ⟨kind, text⟩ after) (rest : Text) :
    Spells mode before (token kind text rest after) := by
  rintro t ht
  cases ht
  exact h

theorem spells_failed (e : ScanError) (rest : Text) : Spells mode before (failed e rest) :=
  fun _ ht => nomatch ht

theorem spells_ended : Spells mode before ended := fun _ ht => nomatch ht

theorem isWord_cons_takeWhile {c : Char} (hc : isWordChar mode c = true) (rest : Text) :
    Text.IsWord mode (c :: rest.takeWhile (isWordChar mode)) := by
  refine ⟨by simp, fun d hd => ?_⟩
  rcases List.mem_cons.1 hd with rfl | hd
  · exact hc
  · exact List.mem_takeWhile_imp hd

/-- What stands between quotes is closed by its last character. -/
theorem splitQuote_self {quote : Char} (hquote : quote ≠ '\\') {t body rest : Text}
    (h : splitQuote quote t = some (body, rest)) : splitQuote quote body = some (body, []) := by
  simpa using splitQuote_body hquote h []

theorem spells_pullQuoted {quote : Char} (hquote : isQuote quote = true) (rest : Text) :
    Spells mode .command (pullQuoted quote rest) := by
  unfold pullQuoted
  split
  · exact spells_failed _ _
  · next hsplit =>
      have hbody := splitQuote_self (ne_slash_of_isQuote hquote) hsplit
      exact spells_token (.quoted hquote hbody) _

theorem phaseAfterPlaceholder_cases (rest : Text) :
    phaseAfterPlaceholder rest = .command ∨ phaseAfterPlaceholder rest = .completionType := by
  unfold phaseAfterPlaceholder
  split <;> simp

theorem spells_pullPlaceholder (hmode : mode = .description) (rest : Text) :
    Spells mode .command (pullPlaceholder rest) := by
  have hslot {text : Text} (htext : text.IsSlot) (after : Text) :
      Spells mode .command (token .placeholder text after (phaseAfterPlaceholder after)) :=
    spells_token (.placeholder hmode htext (phaseAfterPlaceholder_cases after)) _
  fun_cases pullPlaceholder rest with
  | case1 => exact spells_failed _ _
  | case2 rest => exact hslot (.inl rfl) rest
  | case3 c rest _ hc after =>
      refine hslot (.inr ⟨by simp, fun d hd => ?_⟩) after
      rcases List.mem_cons.1 hd with rfl | hd
      · exact hc
      · exact List.mem_takeWhile_imp hd
  | case4 => exact spells_failed _ _

theorem spells_pullCommand (mode : Mode) (rest : Text) :
    Spells mode .command (pullCommand mode rest) := by
  have hblank := head?_dropWhile isBlank rest
  unfold pullCommand
  split
  · exact spells_ended
  · next c r h =>
      rw [h] at hblank
      split
      · next hquote => exact spells_pullQuoted hquote r
      split
      · next hc => exact spells_token (.separator (.inl rfl)) r
      split
      · exact spells_token .pipe r
      split
      · exact spells_token .redirect r
      split
      · next hdollar =>
          simp only [Bool.and_eq_true, decide_eq_true_eq] at hdollar
          exact spells_pullPlaceholder hdollar.2 r
      split
      · exact spells_token .continuation _
      split
      · next hend => exact spells_token (.separator (.inr hend)) r
      · next hquote hsemicolon hpipe hredirect hdollar _ hend =>
          have hword := isWordChar_of_command (hblank c rfl) (Bool.eq_false_iff.2 hend)
            ⟨hsemicolon, hpipe, hredirect⟩ hdollar
          refine spells_token (.word (isWord_cons_takeWhile hword r) fun d hd => ?_) _
          cases hd
          exact Bool.eq_false_iff.2 hquote

theorem spells_pullFilterName (mode : Mode) (rest : Text) :
    Spells mode .filterName (pullFilterName mode rest) := by
  unfold pullFilterName
  split
  · exact spells_ended
  · next c r _ =>
      split
      · next hc => exact spells_token (.filterName (isWord_cons_takeWhile hc r)) _
      split
      · exact spells_token .nextPipe r
      split
      · exact spells_token .noFilter r
      · exact spells_failed _ _

theorem pullCommand_of_ends (mode : Mode) {c : Char} (hc : c = ';' ∨ isLineEnd c = true)
    (rest : Text) :
    pullCommand mode (c :: rest) = token .separator [c] rest .command := by
  rcases hc with rfl | hc
  · rfl
  · simp only [isLineEnd, Bool.or_eq_true, beq_iff_eq] at hc
    rcases hc with rfl | rfl <;> rfl

theorem spells_pullFilename (mode : Mode) (rest : Text) :
    Spells mode .filename (pullFilename mode rest) := by
  have hname : ∀ c ∈ (rest.dropWhile isBlank).takeWhile (isWordChar mode),
      isWordChar mode c = true := fun c hc => List.mem_takeWhile_imp hc
  have hblank := head?_dropWhile isBlank rest
  unfold pullFilename
  generalize rest.dropWhile isBlank = line at hname hblank ⊢
  have hline := List.takeWhile_append_dropWhile (p := isWordChar mode) (l := line)
  dsimp only
  generalize line.takeWhile (isWordChar mode) = name at hname hline ⊢
  split
  · split
    · exact spells_ended
    · next hne => exact spells_token (.filename ⟨hne, hname⟩) _
  · next c r h =>
      rw [h] at hline
      split
      -- A blank stands behind a name, since those in front have been passed over.
      · next hb =>
          have hne : name ≠ [] := by
            rintro rfl
            rw [← hline] at hblank
            exact absurd (hblank c rfl) (by simp [hb])
          exact spells_token (.filename ⟨hne, hname⟩) _
      split
      · next hc =>
          split
          · have hends : c = ';' ∨ isLineEnd c = true := by simpa using hc
            rw [pullCommand_of_ends mode hends]
            exact spells_token (.noFile hends) _
          · next hne => exact spells_token (.filename ⟨hne, hname⟩) _
      · exact spells_failed _ _

theorem spells_pull (mode : Mode) (s : Scanner) : Spells mode s.phase (pull mode s) := by
  obtain ⟨rest, phase⟩ := s
  cases phase with
  | command => exact spells_pullCommand mode rest
  | filterName => exact spells_pullFilterName mode rest
  | filename => exact spells_pullFilename mode rest
  | completionType =>
      exact spells_token (.completionType fun c hc => List.mem_takeWhile_imp hc) _
  | done => exact fun _ ht => nomatch ht

theorem leads_of_pull {s after : Scanner} {t : Token}
    (h : pull mode s = (some (.ok t), after)) : Leads mode s.phase t after.phase := by
  have hspells := spells_pull mode s t
  rw [h] at hspells
  exact hspells rfl

/-- A token that was handed out in one phase and has led to another. -/
structure Spelled (before : Phase) (t : Token) (after : Phase) : Prop where
  word : t.kind = .word → before ≠ .filterName → ∀ c ∈ t.text.head?, isQuote c = false
  quoted : t.kind = .quoted → ∃ c ∈ t.text.head?, isQuote c = true
  slot : t.kind = .placeholder → t.text.IsSlot
  named : t.kind ≠ .pipe → after ≠ .filterName

theorem Leads.spelled {t : Token} {after : Phase} (h : Leads mode before t after) :
    Spelled before t after := by
  cases h with
  | word hword hquote => exact ⟨fun _ _ => hquote, by simp, by simp, by simp⟩
  | @quoted quote body hquote hbody =>
      exact ⟨by simp, fun _ => ⟨quote, rfl, hquote⟩, by simp, by simp⟩
  | placeholder hmode hslot hafter =>
      exact ⟨by simp, by simp, fun _ => hslot, fun _ => by rcases hafter with rfl | rfl <;> simp⟩
  | filterName hword => exact ⟨fun _ hbefore => absurd rfl hbefore, by simp, by simp, by simp⟩
  | _ => exact ⟨by simp, by simp, by simp, by simp⟩

theorem spelled_of_pull {s after : Scanner} {t : Token}
    (h : pull mode s = (some (.ok t), after)) : Spelled s.phase t after.phase :=
  (leads_of_pull h).spelled

/-! ## All tokens of a line -/

theorem Pulls.exists_leads {s last : Scanner} {ts : List Token} (h : Pulls mode s ts last) :
    ∀ t ∈ ts, ∃ before after, Leads mode before t after := by
  induction h with
  | nil s => exact fun t ht => absurd ht List.not_mem_nil
  | cons hpull h ih => exact List.forall_mem_cons.2 ⟨⟨_, _, leads_of_pull hpull⟩, ih⟩

theorem exists_leads_of_scan {line : Text} {ts : List Token} {failure : Option ScanError}
    (h : scan mode line = (ts, failure)) : ∀ t ∈ ts, ∃ before after, Leads mode before t after := by
  obtain ⟨last, after, hpulls, -⟩ := exists_pulls_of_scan h
  exact hpulls.exists_leads

end Scanner

open Scanner

theorem isSlot_of_scan {mode : Mode} {line : Text} {ts : List Token} {failure : Option ScanError}
    (h : scan mode line = (ts, failure)) : ∀ t ∈ ts, t.kind = .placeholder → t.text.IsSlot := by
  intro t ht
  obtain ⟨before, after, hleads⟩ := exists_leads_of_scan h t ht
  exact hleads.spelled.slot

/-- User input holds no placeholders. -/
theorem kind_ne_placeholder_of_scan {line : Text} {ts : List Token} {failure : Option ScanError}
    (h : scan .input line = (ts, failure)) : ∀ t ∈ ts, t.kind ≠ .placeholder := by
  intro t ht hkind
  obtain ⟨before, after, hleads⟩ := exists_leads_of_scan h t ht
  cases hleads with
  | placeholder hmode _ _ => cases hmode
  | _ => cases hkind

end MenuLine
