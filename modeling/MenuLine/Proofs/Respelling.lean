import Mathlib
import MenuLine.Proofs.Requoting
import MenuLine.Proofs.Spelling

/-!
# Tokens that are written out and read back

A line of tokens can be written anew: each token in its source form and a blank
between two of them, but none in front of the name of a completer, which is
glued to its placeholder. Every token is then met in the phase that it was
found in before, so the same tokens are read: `scan_written`.
-/

namespace MenuLine

namespace Text

/-- The end of a line, or a blank. -/
def Spaced (t : Text) : Prop := ∀ c ∈ t.head?, c = ' '

theorem Spaced.isWordChar {t : Text} (h : t.Spaced) (mode : Mode) :
    ∀ c ∈ t.head?, isWordChar mode c = false := by
  intro c hc
  rw [h c hc]
  rfl

theorem Spaced.isLineEnd {t : Text} (h : t.Spaced) : ∀ c ∈ t.head?, isLineEnd c = false := by
  intro c hc
  rw [h c hc]
  rfl

end Text

namespace Token

/-- How a token is written behind another one. -/
def behind (t : Token) : Text := if t.kind = .completionType then t.source else ' ' :: t.source

/-- Tokens in their source forms, with the blanks that keep them apart. -/
def written : List Token → Text
  | [] => []
  | t :: ts => t.source ++ ts.flatMap behind

theorem behind_of_ne {t : Token} (h : t.kind ≠ .completionType) : t.behind = ' ' :: t.source := by
  rw [behind, if_neg h]

end Token

namespace Scanner

variable {mode : Mode}

/-- What the scanner sees of a character of words in front of a command. -/
structure Letter (mode : Mode) (c : Char) : Prop where
  blank : isBlank c = false
  lineEnd : isLineEnd c = false
  separator : c ≠ ';'
  pipe : c ≠ '|'
  redirect : c ≠ '>'
  placeholder : c = '$' → mode ≠ .description

theorem letter_of_isWordChar {c : Char} (h : isWordChar mode c = true) : Letter mode c := by
  simp only [isWordChar, Bool.and_eq_true, Bool.not_eq_true', Bool.or_eq_false_iff,
    beq_eq_false_iff_ne, Bool.or_eq_true, bne_iff_ne, beq_iff_eq] at h
  obtain ⟨⟨⟨⟨⟨hblank, hend⟩, hseparator⟩, hpipe⟩, hredirect⟩, hdollar⟩ := h
  refine ⟨hblank, hend, hseparator, hpipe, hredirect, ?_⟩
  rintro hc rfl
  simp [hc] at hdollar

/-- What may be written behind a token, by the phase that the token leads to. -/
def Joins : Phase → Text → Prop
  | .completionType, u => ∃ v, u = ':' :: v
  | _, u => u.Spaced

/-! ## One token -/

/-- A backslash begins a word unless the line ends behind it. -/
theorem not_isLineEnd_head {r u : Text} (hr : ∀ c ∈ r, isWordChar mode c = true)
    (hu : u.Spaced) : ((r ++ u).head?.map isLineEnd).getD false = false := by
  cases r with
  | nil =>
      cases u with
      | nil => rfl
      | cons c v => exact hu.isLineEnd c rfl
  | cons c r => exact (letter_of_isWordChar (hr c List.mem_cons_self)).lineEnd

theorem pullCommand_word {w u : Text} (hword : w.IsWord mode)
    (hquote : ∀ c ∈ w.head?, isQuote c = false) (hu : u.Spaced) :
    pullCommand mode (w ++ u) = token .word w u .command := by
  obtain ⟨hne, hall⟩ := hword
  cases w with
  | nil => exact absurd rfl hne
  | cons c r =>
      have hc := letter_of_isWordChar (hall c List.mem_cons_self)
      have hr : ∀ d ∈ r, isWordChar mode d = true :=
        fun d hd => hall d (List.mem_cons_of_mem c hd)
      have hend := not_isLineEnd_head hr hu
      have hdollar : ¬ (c = '$' && mode = .description) = true := by
        simpa using hc.placeholder
      rw [← pullWord_append hr (hu.isWordChar mode), List.cons_append]
      generalize r ++ u = rest at hend ⊢
      simp [pullCommand, hc.blank, hc.lineEnd, hc.separator, hc.pipe, hc.redirect,
        hquote c rfl, hend, hdollar]

theorem pullFilterName_word {w u : Text} (hword : w.IsWord mode) (hu : u.Spaced) :
    pullFilterName mode (w ++ u) = token .word w u .command := by
  obtain ⟨hne, hall⟩ := hword
  cases w with
  | nil => exact absurd rfl hne
  | cons c r =>
      have hc := hall c List.mem_cons_self
      have hr : ∀ d ∈ r, isWordChar mode d = true :=
        fun d hd => hall d (List.mem_cons_of_mem c hd)
      rw [← pullWord_append hr (hu.isWordChar mode)]
      simp [pullFilterName, (letter_of_isWordChar hc).blank, hc]

theorem pullQuoted_body {quote : Char} (hquote : isQuote quote = true) {body : Text}
    (hbody : splitQuote quote body = some (body, [])) (u : Text) :
    pullCommand mode (quote :: (body ++ u)) = token .quoted (quote :: body) u .command := by
  have hpull : pullCommand mode (quote :: (body ++ u)) = pullQuoted quote (body ++ u) := by
    have hq := hquote
    simp only [isQuote, Bool.or_eq_true, beq_iff_eq] at hq
    rcases hq with (rfl | rfl) | rfl <;> rfl
  rw [hpull, pullQuoted, splitQuote_append (ne_slash_of_isQuote hquote) hbody]
  rfl

theorem pullCommand_continuation (mode : Mode) {u : Text}
    (hu : ∀ c ∈ u.head?, isLineEnd c = false) :
    pullCommand mode ('\\' :: '\n' :: u) = token .continuation [] u .command := by
  have hends : ('\n' :: u).dropWhile isLineEnd = u :=
    dropWhile_append_of_stop (t := ['\n']) (by simp [isLineEnd]) hu
  have hpull : pullCommand mode ('\\' :: '\n' :: u) =
      token .continuation [] (('\n' :: u).dropWhile isLineEnd) .command := by
    simp [pullCommand, isBlank, isQuote, isLineEnd]
  rw [hpull, hends]

/-- What is written behind a placeholder ends its number. -/
theorem Joins.placeholder {after : Phase} {u : Text}
    (hafter : after = .command ∨ after = .completionType) (hu : Joins after u) :
    phaseAfterPlaceholder u = after ∧ ∀ c ∈ u.head?, c.isDigit = false := by
  rcases hafter with rfl | rfl
  · cases u with
    | nil => exact ⟨rfl, by simp⟩
    | cons c v =>
        have hc : c = ' ' := hu c rfl
        subst hc
        exact ⟨rfl, by simp⟩
  · obtain ⟨v, rfl⟩ := hu
    exact ⟨rfl, by simp⟩

theorem pullPlaceholder_slot {slot u : Text} (hslot : slot.IsSlot)
    (hu : ∀ c ∈ u.head?, c.isDigit = false) :
    pullPlaceholder (slot ++ u) = token .placeholder slot u (phaseAfterPlaceholder u) := by
  rcases hslot with rfl | ⟨hne, hdigits⟩
  · rfl
  · cases slot with
    | nil => exact absurd rfl hne
    | cons c r =>
        have hc := hdigits c List.mem_cons_self
        have hr : ∀ d ∈ r, d.isDigit = true := fun d hd => hdigits d (List.mem_cons_of_mem c hd)
        have hstar : c = '*' → False := by
          rintro rfl
          cases hc
        rw [List.cons_append, pullPlaceholder, if_pos hc, takeWhile_append_of_stop hr hu,
          dropWhile_append_of_stop hr hu]
        exact hstar

theorem pullCompletionType_name {name u : Text} (hname : ∀ c ∈ name, isNameChar c = true)
    (hu : u.Spaced) :
    pullCompletionType (':' :: (name ++ u)) = token .completionType name u .command := by
  have hstop : ∀ c ∈ u.head?, isNameChar c = false := by
    intro c hc
    rw [hu c hc]
    rfl
  rw [pullCompletionType, List.drop_one, List.tail_cons, takeWhile_append_of_stop hname hstop,
    dropWhile_append_of_stop hname hstop]

theorem pullFilename_word {w u : Text} (hword : w.IsWord mode) (hu : u.Spaced) :
    pullFilename mode (w ++ u) = token .filename w u.tail .command := by
  obtain ⟨hne, hall⟩ := hword
  have hdrop : (w ++ u).dropWhile isBlank = w ++ u := by
    cases w with
    | nil => exact absurd rfl hne
    | cons c r => simp [(letter_of_isWordChar (hall c List.mem_cons_self)).blank]
  simp only [pullFilename, hdrop, takeWhile_append_of_stop hall (hu.isWordChar mode),
    dropWhile_append_of_stop hall (hu.isWordChar mode)]
  cases u with
  | nil => simp [hne]
  | cons c v =>
      have hc : isBlank c = true := by
        rw [hu c rfl]
        rfl
      simp [hc]

theorem pullFilename_separator {c : Char} (hc : c = ';' ∨ isLineEnd c = true) (u : Text) :
    pullFilename mode (c :: u) = token .separator [c] u .command := by
  have hsplit : c = ';' ∨ c = '\n' ∨ c = '\r' := by
    simpa [isLineEnd] using hc
  rw [← pullCommand_of_ends mode hc]
  rcases hsplit with rfl | rfl | rfl <;> rfl

theorem pull_space {phase : Phase} (hphase : phase ≠ .completionType ∧ phase ≠ .done)
    (rest : Text) : pull mode ⟨' ' :: rest, phase⟩ = pull mode ⟨rest, phase⟩ :=
  pull_blank_append hphase Text.blank_space rest

/-- A token that is written in its phase is pulled, and what is behind it is
read on as if it stood there alone. -/
theorem Leads.exists_pull {before after : Phase} {t : Token} (h : Leads mode before t after)
    {u : Text} (hu : Joins after u) :
    ∃ rest, pull mode ⟨t.source ++ u, before⟩ = (some (.ok t), ⟨rest, after⟩) ∧
      pull mode ⟨rest, after⟩ = pull mode ⟨u, after⟩ := by
  cases h with
  | word hword hquote => exact ⟨u, pullCommand_word hword hquote hu, rfl⟩
  | quoted hquote hbody => exact ⟨u, pullQuoted_body hquote hbody u, rfl⟩
  | separator hc => exact ⟨u, pullCommand_of_ends mode hc u, rfl⟩
  | pipe => exact ⟨u, rfl, rfl⟩
  | redirect => exact ⟨u, rfl, rfl⟩
  | continuation => exact ⟨u, pullCommand_continuation mode hu.isLineEnd, rfl⟩
  | @placeholder slot after hmode hslot hafter =>
      obtain ⟨hphase, hdigit⟩ := hu.placeholder hafter
      subst hmode
      refine ⟨u, ?_, rfl⟩
      have hpull : pull .description ⟨'$' :: (slot ++ u), .command⟩ = pullPlaceholder (slot ++ u) :=
        rfl
      rw [pullPlaceholder_slot hslot hdigit, hphase] at hpull
      exact hpull
  | completionType hname => exact ⟨u, pullCompletionType_name hname hu, rfl⟩
  | filterName hword => exact ⟨u, pullFilterName_word hword hu, rfl⟩
  | nextPipe => exact ⟨u, rfl, rfl⟩
  | noFilter => exact ⟨u, rfl, rfl⟩
  -- The blank behind the name of a file is read together with it.
  | filename hword =>
      refine ⟨u.tail, pullFilename_word hword hu, ?_⟩
      cases u with
      | nil => rfl
      | cons c v =>
          have hc : c = ' ' := hu c rfl
          rw [hc, pull_space (by simp)]
          rfl
  | noFile hc => exact ⟨u, pullFilename_separator hc u, rfl⟩

/-! ## All tokens of a line -/

theorem Leads.kind_iff {before after : Phase} {t : Token} (h : Leads mode before t after) :
    t.kind = .completionType ↔ before = .completionType := by
  cases h <;> simp

theorem Leads.before_ne_done {before after : Phase} {t : Token} (h : Leads mode before t after) :
    before ≠ .done := by
  cases h <;> simp

/-- The tokens that come in some phase may be written there. -/
theorem Pulls.joins {s last : Scanner} {ts : List Token} (h : Pulls mode s ts last)
    (hlast : last.phase ≠ .completionType) : Joins s.phase (ts.flatMap Token.behind) := by
  cases h with
  | nil s =>
      have hnil : Text.Spaced [] := by simp [Text.Spaced]
      revert hlast
      cases s.phase with
      | completionType => exact fun hlast => absurd rfl hlast
      | _ => exact fun _ => hnil
  | @cons s t middle ts last hpull h =>
      have hkind := (leads_of_pull hpull).kind_iff
      rw [List.flatMap_cons]
      by_cases hphase : s.phase = .completionType
      · have hsource : t.behind = ':' :: t.text := by
          simp [Token.behind, Token.source, hkind.2 hphase]
        rw [hphase, hsource]
        exact ⟨_, rfl⟩
      · have hspaced : Text.Spaced (t.behind ++ ts.flatMap Token.behind) := by
          rw [Token.behind_of_ne fun ht => hphase (hkind.1 ht)]
          simp [Text.Spaced]
        revert hphase
        cases s.phase with
        | completionType => exact fun hphase => absurd rfl hphase
        | _ => exact fun _ => hspaced

theorem Leads.pull_behind {before after : Phase} {t : Token} (h : Leads mode before t after)
    (u : Text) : pull mode ⟨t.behind ++ u, before⟩ = pull mode ⟨t.source ++ u, before⟩ := by
  unfold Token.behind
  split
  · rfl
  · next hkind =>
      have hphase : before ≠ .completionType := fun hbefore => hkind (h.kind_iff.2 hbefore)
      exact pull_space ⟨hphase, h.before_ne_done⟩ _

theorem Pulls.drain_behind {s last : Scanner} {ts : List Token} (h : Pulls mode s ts last)
    (hlast : last.phase ≠ .completionType) :
    (drain mode ⟨ts.flatMap Token.behind, s.phase⟩).1 = ts ∧
      (drain mode ⟨ts.flatMap Token.behind, s.phase⟩).2.1 = none := by
  -- What is written now has nothing but the phase in common with what was pulled from.
  induction h with
  | nil s =>
      have hpull : ∃ after, pull mode ⟨[], s.phase⟩ = (none, after) := by
        revert hlast
        cases s.phase with
        | completionType => exact fun hlast => absurd rfl hlast
        | _ => exact fun _ => ⟨_, rfl⟩
      obtain ⟨after, hpull⟩ := hpull
      rw [List.flatMap_nil, drain_of_ended hpull]
      exact ⟨rfl, rfl⟩
  | @cons s t middle ts last hpull h ih =>
      have hleads := leads_of_pull hpull
      obtain ⟨rest, hsource, hrest⟩ := hleads.exists_pull (h.joins hlast)
      rw [← hleads.pull_behind, ← List.flatMap_cons] at hsource
      rw [drain_of_token hsource, drain_of_pull_eq hrest]
      obtain ⟨htokens, hfailure⟩ := ih hlast
      exact ⟨congrArg (t :: ·) htokens, hfailure⟩

end Scanner

open Scanner

/-- Tokens that were read from some line are read again from the line that they
are written out as. -/
theorem scan_written {mode : Mode} {line : Text} {ts : List Token}
    (h : scan mode line = (ts, none)) : scan mode (Token.written ts) = (ts, none) := by
  obtain ⟨last, after, hpulls, hends⟩ := exists_pulls_of_scan h
  have hlast : last.phase ≠ .completionType := by
    cases hends with
    | line hpull => exact phase_of_pull_none hpull
  obtain ⟨htokens, hnone⟩ := hpulls.drain_behind hlast
  -- The first token is the only one that is written without what is in front of it.
  have hdrain : drain mode (.start (Token.written ts)) =
      drain mode ⟨ts.flatMap Token.behind, .command⟩ := by
    cases hpulls with
    | nil s => rfl
    | cons hpull h => exact drain_of_pull_eq ((leads_of_pull hpull).pull_behind _).symm
  have hphase : (Scanner.start line).phase = .command := rfl
  rw [hphase, ← hdrain] at htokens hnone
  exact Prod.ext htokens hnone

/-- Words, names and continuations that stand close together, and a file and the
name of a completer that are missing. -/
theorem scan_written_close_together :
    let typed : List Token := [⟨.word, "ls".toList⟩, ⟨.quoted, "'a b'".toList⟩,
      ⟨.word, "x".toList⟩, ⟨.continuation, []⟩, ⟨.word, "-l".toList⟩, ⟨.pipe, "|".toList⟩,
      ⟨.word, "'grep".toList⟩, ⟨.redirect, ">".toList⟩, ⟨.filename, "out".toList⟩,
      ⟨.separator, ";".toList⟩, ⟨.redirect, ">".toList⟩, ⟨.separator, ";".toList⟩]
    let described : List Token := [⟨.word, "go".toList⟩, ⟨.placeholder, "1".toList⟩,
      ⟨.completionType, "dir".toList⟩, ⟨.word, ".x".toList⟩, ⟨.placeholder, "*".toList⟩,
      ⟨.completionType, []⟩, ⟨.separator, ";".toList⟩]
    scan .input "ls 'a b'x \\\r\n-l|'grep>out\t;>;".toList = (typed, none) ∧
      scan .input "ls 'a b' x \\\n -l | 'grep > out ; > ;".toList = (typed, none) ∧
      scan .description "go$1:dir.x $*:;".toList = (described, none) ∧
      scan .description "go $1:dir .x $*: ;".toList = (described, none) := by
  intro typed described
  have htyped : scan .input "ls 'a b'x \\\r\n-l|'grep>out\t;>;".toList = (typed, none) := by cbv
  have hdescribed : scan .description "go$1:dir.x $*:;".toList = (described, none) := by cbv
  exact ⟨htyped, scan_written htyped, hdescribed, scan_written hdescribed⟩

end MenuLine
