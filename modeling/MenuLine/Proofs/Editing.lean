import Mathlib
import MenuLine.Editing
import MenuLine.Proofs.Grammar
import MenuLine.Proofs.Spelling

/-!
# The statement in front of the cursor

An editor looks for the last semicolon or newline of a line, wherever that
stands. It finds the beginning of the last statement if the separator in front
of that statement is one of these two marks, if none of the statement's own
tokens holds a mark, and if its first word does not begin with white space that
the scanner reads as a letter. Then what is left behind the mark is read as the
last statement and nothing else: `Editing.parse_lastStatement`.
-/

namespace MenuLine

theorem Piece.separator_eq {mode : Mode} {line rest : Text} {t : Token}
    (h : Piece mode line t rest) (ht : t.kind = .separator) :
    ∃ before after : Text, after.Blank ∧ line = before ++ (t.text ++ (after ++ rest)) := by
  obtain @⟨_, before, source, after, rest, -, hsource, -, -, hafter, -⟩ := h
  refine ⟨before, after, hafter, ?_⟩
  cases hsource with
  | source _ => simp [Token.source, ht]
  | continuation hkind _ _ => simp [ht] at hkind

namespace Scanner

variable {mode : Mode}

theorem Leads.separator_cases {before after : Phase} {t : Token}
    (h : Leads mode before t after) (ht : t.kind = .separator) :
    after = .command ∧ ∃ c, t.text = [c] ∧ (c = ';' ∨ isLineEnd c = true) := by
  cases h with
  | @separator c hc => exact ⟨rfl, c, rfl, hc⟩
  | noFilter => exact ⟨rfl, ';', rfl, .inl rfl⟩
  | @noFile c hc => exact ⟨rfl, c, rfl, hc⟩
  | _ => cases ht

end Scanner

open Scanner

namespace Unicode

theorem isWhiteSpace_of_isBlank {c : Char} (h : isBlank c = true) : isWhiteSpace c = true := by
  simp only [isBlank, Bool.or_eq_true, beq_iff_eq] at h
  rcases h with rfl | rfl <;> rfl

end Unicode

theorem Text.trimStart_blank_append {before rest : Text} (hbefore : before.Blank)
    (hrest : ∀ c ∈ rest.head?, Unicode.isWhiteSpace c = false) :
    trimStart (before ++ rest) = rest := by
  have hall : ∀ c ∈ before, Unicode.isWhiteSpace c = true :=
    fun c hc => Unicode.isWhiteSpace_of_isBlank (hbefore c hc)
  exact dropWhile_append_of_stop hall hrest

theorem Grammar.IsLine.eq_singleton {ts : List Token} {ss : List Statement} (h : IsLine ts ss)
    (hne : ts ≠ [])
    (hts : ∀ t ∈ ts, t.kind ≠ .continuation ∧ t.kind ≠ .separator) : ∃ s, ss = [s] := by
  cases h with
  | blank hcs =>
      obtain ⟨t, ts, rfl⟩ := List.exists_cons_of_ne_nil hne
      exact absurd (hcs t List.mem_cons_self) (hts t List.mem_cons_self).1
  | @mk cs ts s us ss hcs hstatement hmore =>
      cases hmore with
      | nil => exact ⟨s, rfl⟩
      | trailing hsep _ => exact absurd hsep (hts _ (by simp)).2
      | cons hsep _ _ _ => exact absurd hsep (hts _ (by simp)).2

namespace Editing

/-- The tokens behind the last separator of a line, which is no carriage return. -/
inductive Last : List Token → List Token → Prop where
  | all {ts} (hts : ∀ t ∈ ts, t.kind ≠ .separator) : Last ts ts
  | behind {front sep back} (hsep : sep.kind = .separator) (hmark : sep.text ≠ ['\r'])
      (hback : ∀ t ∈ back, t.kind ≠ .separator) : Last (front ++ sep :: back) back

/-- Tokens in which no mark is found, and of which the first is not taken for a
blank. -/
structure Apparent (ts : List Token) : Prop where
  marks : ∀ t ∈ ts, ∀ c ∈ t.source, endsStatement c = false
  start : ∀ t ∈ ts.head?, ∀ c ∈ t.source.head?, Unicode.isWhiteSpace c = false

theorem Apparent.continuation {ts : List Token} (h : Apparent ts) :
    ∀ t ∈ ts, t.kind ≠ .continuation := by
  intro t ht hkind
  have hmark := h.marks t ht '\n' (by simp [Token.source, hkind])
  cases hmark

theorem endsStatement_of_isBlank {c : Char} (h : isBlank c = true) : endsStatement c = false := by
  simp only [isBlank, Bool.or_eq_true, beq_iff_eq] at h
  rcases h with rfl | rfl <;> rfl

theorem lastPart_of_forall {line : Text} (h : ∀ c ∈ line, endsStatement c = false) :
    lastPart line = line := by
  have hall : ∀ c ∈ line.reverse, (! endsStatement c) = true := by
    intro c hc
    rw [h c (List.mem_reverse.1 hc)]
    rfl
  rw [lastPart, List.takeWhile_eq_self_iff.2 hall, List.reverse_reverse]

theorem endsStatement_of_separator {c : Char} (hc : c = ';' ∨ isLineEnd c = true)
    (hreturn : c ≠ '\r') : endsStatement c = true := by
  simp only [isLineEnd, Bool.or_eq_true, beq_iff_eq] at hc
  rcases hc with rfl | rfl | rfl
  · rfl
  · rfl
  · exact absurd rfl hreturn

/-- Behind a separator a line is read as if it began there. -/
theorem exists_part {line : Text} {ts back : List Token} (hscan : scan .input line = (ts, none))
    (hlast : Last ts back) :
    ∃ part, scan .input part = (back, none) ∧
      (part = line ∨ ∃ front mark, endsStatement mark = true ∧ line = front ++ mark :: part) := by
  cases hlast with
  | all _ => exact ⟨line, hscan, .inl rfl⟩
  -- The run of the scanner is cut in two behind the separator.
  | @behind front sep back hsep hmark _ =>
      obtain ⟨last, after, hpulls, hends⟩ := exists_pulls_of_scan hscan
      obtain ⟨middle, hfront, hrest⟩ := hpulls.exists_middle
      obtain ⟨hlayout, hready⟩ := hfront.layout (ready_command line)
      obtain ⟨before, hline⟩ := hlayout.exists_append
      cases hrest with
      | @cons _ _ next _ _ hpull hback =>
          obtain ⟨hphase, c, htext, hc⟩ := (leads_of_pull hpull).separator_cases hsep
          obtain ⟨blanks, spaces, hspaces, hmiddle⟩ := (hready.pulled hpull).1.separator_eq hsep
          obtain ⟨rest, phase⟩ := next
          cases hphase
          have hscanned : scan .input rest = (back, none) := scan_of_pulls_ended hback hends
          have hends : endsStatement c = true := by
            apply endsStatement_of_separator hc
            rintro rfl
            exact hmark htext
          refine ⟨spaces ++ rest, ?_, .inr ⟨before ++ blanks, c, hends, ?_⟩⟩
          · rw [scan_blank_append hspaces, hscanned]
          · have hstart : (Scanner.start line).rest = line := rfl
            rw [hstart, hmiddle, htext] at hline
            rw [hline]
            simp

/-- The marks of a line are in its tokens. -/
theorem Apparent.lastPart_eq {part : Text} {ts : List Token} (h : Apparent ts)
    (hscan : scan .input part = (ts, none)) : lastPart part = part := by
  obtain ⟨last, after, hpulls, hends⟩ := exists_pulls_of_scan hscan
  obtain ⟨hlayout, hready⟩ := hpulls.layout (ready_command part)
  have hblank : last.rest.Blank := by
    cases hends with
    | line hpull => exact (hready.ended hpull).1
  apply lastPart_of_forall
  apply hlayout.forall_mem fun c hc => endsStatement_of_isBlank hc
  · intro t ht
    exact ⟨h.continuation t ht, h.marks t ht⟩
  · intro c hc
    exact endsStatement_of_isBlank (hblank c hc)

/-- White space in front of the first token is nothing but blanks. -/
theorem Apparent.trimStart {part : Text} {ts : List Token} (h : Apparent ts) (hne : ts ≠ [])
    (hscan : scan .input part = (ts, none)) :
    ∃ before, part = before ++ part.trimStart ∧ scan .input part.trimStart = (ts, none) := by
  obtain ⟨last, after, hpulls, -⟩ := exists_pulls_of_scan hscan
  have hlayout := (hpulls.layout (ready_command part)).1
  have hstart : (Scanner.start part).rest = part := rfl
  rw [hstart] at hlayout
  generalize last.rest = rest at hlayout
  cases hlayout with
  | nil => exact absurd rfl hne
  | @cons _ t middle ts _ hpiece hrest =>
      have hcontinuation := h.continuation t List.mem_cons_self
      obtain @⟨_, before, source, after, middle, hbefore, hsource, hne, -, -, -⟩ := hpiece
      have hhead : ∀ c ∈ (source ++ (after ++ middle)).head?, Unicode.isWhiteSpace c = false := by
        cases hsource with
        | source _ =>
            intro c hc
            have hstart := h.start t rfl
            cases hsource : t.source with
            | nil => exact absurd hsource hne
            | cons d r =>
                rw [hsource] at hc hstart
                exact hstart c hc
        | continuation hkind => exact absurd hkind hcontinuation
      have htrim := Text.trimStart_blank_append hbefore hhead
      rw [htrim]
      rw [scan_blank_append hbefore] at hscan
      exact ⟨before, rfl, hscan⟩

/-- Tokens that belong to one statement alone are read as one statement. -/
theorem exists_singleton {ts : List Token} {ss : List Statement}
    (hplain : ∀ t ∈ ts, t.kind ≠ .placeholder) (hne : ts ≠ [])
    (hts : ∀ t ∈ ts, t.kind ≠ .continuation ∧ t.kind ≠ .separator)
    (hread : Statement.ofTokens ts none = .ok ss) : ∃ s, ss = [s] := by
  have hline : Grammar.IsLine ts ss := (Grammar.steps_finish_eq_ok_iff hplain ss).1 hread
  exact hline.eq_singleton hne hts

theorem ofTokens_last {ts back : List Token} {ss : List Statement} {s : Statement}
    (hplain : ∀ t ∈ ts, t.kind ≠ .placeholder) (hlast : Last ts back) (hne : back ≠ [])
    (hback : ∀ t ∈ back, t.kind ≠ .continuation) (hread : Statement.ofTokens ts none = .ok ss)
    (hs : ss.getLast? = some s) : Statement.ofTokens back none = .ok [s] := by
  cases hlast with
  | all hts =>
      have hone : ∀ t ∈ ts, t.kind ≠ .continuation ∧ t.kind ≠ .separator :=
        fun t ht => ⟨hback t ht, hts t ht⟩
      obtain ⟨u, rfl⟩ := exists_singleton hplain hne hone hread
      cases hs
      exact hread
  | @behind front sep back hsep _ hts =>
      have hone : ∀ t ∈ back, t.kind ≠ .continuation ∧ t.kind ≠ .separator :=
        fun t ht => ⟨hback t ht, hts t ht⟩
      have hbackPlain : ∀ t ∈ back, t.kind ≠ .placeholder := by
        intro t ht
        exact hplain t (by simp [ht])
      obtain ⟨earlier, later, -, hlater, rfl⟩ := Statement.exists_of_ofTokens_append hsep hread
      obtain ⟨u, rfl⟩ := exists_singleton hbackPlain hne hone hlater
      rw [List.getLast?_concat] at hs
      cases hs
      exact hlater

/-- What the editor finds is read as the tokens of the last statement. -/
theorem scan_lastStatement {line : Text} {ts back : List Token}
    (hscan : scan .input line = (ts, none)) (hlast : Last ts back) (hne : back ≠ [])
    (happarent : Apparent back) :
    ∃ front, line = front ++ lastStatement line ∧
      scan .input (lastStatement line) = (back, none) := by
  obtain ⟨part, hpart, hline⟩ := exists_part hscan hlast
  obtain ⟨blanks, hblanks, htrimmed⟩ := happarent.trimStart hne hpart
  have hlastPart : lastPart part = part := happarent.lastPart_eq hpart
  rcases hline with rfl | ⟨front, mark, hmark, rfl⟩
  · have hstatement : lastStatement part = part.trimStart := by rw [lastStatement, hlastPart]
    rw [hstatement]
    exact ⟨blanks, hblanks, htrimmed⟩
  · have hstatement : lastStatement (front ++ mark :: part) = part.trimStart := by
      rw [lastStatement, lastPart_append front part hmark, hlastPart]
    rw [hstatement]
    refine ⟨front ++ mark :: blanks, ?_, htrimmed⟩
    rw [List.append_assoc, List.cons_append, ← hblanks]

theorem length_bytes_eq_statementStart {line front : Text}
    (h : line = front ++ lastStatement line) : front.bytes.length = statementStart line := by
  have hlength : line.bytes.length = front.bytes.length + (lastStatement line).bytes.length := by
    rw [← List.length_append, ← Text.bytes_append, ← h]
  rw [statementStart]
  omega

/-- The last statement of a line is what stands behind the mark that the editor
finds, if a separator that is a mark, or nothing, stands in front of its tokens
and they are apparent. -/
theorem parse_lastStatement {line : Text} {ss : List Statement} {s : Statement}
    {back : List Token} (hparse : Statement.parse .input line = .ok ss)
    (hs : ss.getLast? = some s)
    (hend : ∀ t ∈ (scan .input line).1.getLast?, t.kind ≠ .separator)
    (hlast : Last (scan .input line).1 back) (happarent : Apparent back) :
    ∃ front, line = front ++ lastStatement line ∧ front.bytes.length = statementStart line ∧
      Statement.parse .input (lastStatement line) = .ok [s] := by
  obtain ⟨ts, r, hscan, hsteps, hfinish⟩ := Statement.exists_of_parse_eq_ok hparse
  have hplain := kind_ne_placeholder_of_scan hscan
  rw [Statement.parse_of_scan hscan] at hparse
  rw [hscan] at hend hlast
  have hne : back ≠ [] := by
    rintro rfl
    cases hlast with
    | all _ =>
        cases hparse
        cases hs
    | behind hsep _ _ => exact hend _ (by simp) hsep
  have hread := ofTokens_last hplain hlast hne happarent.continuation hparse hs
  obtain ⟨front, hline, hstatement⟩ := scan_lastStatement hscan hlast hne happarent
  refine ⟨front, hline, length_bytes_eq_statementStart hline, ?_⟩
  rw [Statement.parse_of_scan hstatement]
  exact hread

/-- A quoted word and a file behind a newline, and other separators in front. -/
theorem parse_lastStatement_three_statements :
    Statement.parse .input "a;b | c > d\n  say 'x y' > e".toList =
        .ok [⟨[.literal "a".toList], [], none⟩,
          ⟨[.literal "b".toList], [⟨"c".toList, []⟩], some "d".toList⟩,
          ⟨["say", "x y"].map fun w => .literal w.toList, [], some "e".toList⟩] ∧
      lastStatement "a;b | c > d\n  say 'x y' > e".toList = "say 'x y' > e".toList ∧
      ∃ front : Text, "a;b | c > d\n  say 'x y' > e".toList =
          front ++ lastStatement "a;b | c > d\n  say 'x y' > e".toList ∧
        front.bytes.length = statementStart "a;b | c > d\n  say 'x y' > e".toList ∧
        Statement.parse .input (lastStatement "a;b | c > d\n  say 'x y' > e".toList) =
          .ok [⟨["say", "x y"].map fun w => .literal w.toList, [], some "e".toList⟩] := by
  have hparse : Statement.parse .input "a;b | c > d\n  say 'x y' > e".toList =
      .ok [⟨[.literal "a".toList], [], none⟩,
        ⟨[.literal "b".toList], [⟨"c".toList, []⟩], some "d".toList⟩,
        ⟨["say", "x y"].map fun w => .literal w.toList, [], some "e".toList⟩] := by cbv
  have hscan : (scan .input "a;b | c > d\n  say 'x y' > e".toList).1 =
      [⟨.word, "a".toList⟩, ⟨.separator, ";".toList⟩, ⟨.word, "b".toList⟩, ⟨.pipe, "|".toList⟩,
        ⟨.word, "c".toList⟩, ⟨.redirect, ">".toList⟩, ⟨.filename, "d".toList⟩] ++
      ⟨.separator, "\n".toList⟩ :: [⟨.word, "say".toList⟩, ⟨.quoted, "'x y'".toList⟩,
        ⟨.redirect, ">".toList⟩, ⟨.filename, "e".toList⟩] := by cbv
  have hend : ∀ t ∈ (scan .input "a;b | c > d\n  say 'x y' > e".toList).1.getLast?,
      t.kind ≠ .separator := by
    rw [hscan]
    simp
  have hlast : Last (scan .input "a;b | c > d\n  say 'x y' > e".toList).1
      [⟨.word, "say".toList⟩, ⟨.quoted, "'x y'".toList⟩, ⟨.redirect, ">".toList⟩,
        ⟨.filename, "e".toList⟩] := by
    rw [hscan]
    exact .behind rfl (by simp) (by simp)
  have happarent : Apparent [⟨.word, "say".toList⟩, ⟨.quoted, "'x y'".toList⟩,
      ⟨.redirect, ">".toList⟩, ⟨.filename, "e".toList⟩] := by
    refine ⟨by simp [Token.source, endsStatement], ?_⟩
    rintro _ ⟨⟩ _ ⟨⟩
    rfl
  exact ⟨hparse, by cbv, parse_lastStatement hparse rfl hend hlast happarent⟩

/-- A mark inside of quotes, a carriage return between two statements, a
continuation, and a word that begins with white space. -/
theorem parse_lastStatement_ne :
    Statement.parse .input "say \"a;b\"".toList =
        .ok [⟨["say", "a;b"].map fun w => .literal w.toList, [], none⟩] ∧
      statementStart "say \"a;b\"".toList = 7 ∧
      Statement.parse .input (lastStatement "say \"a;b\"".toList) =
        .ok [⟨[.literal "b\"".toList], [], none⟩] ∧
    Statement.parse .input "a\rb".toList =
        .ok [⟨[.literal "a".toList], [], none⟩, ⟨[.literal "b".toList], [], none⟩] ∧
      statementStart "a\rb".toList = 0 ∧
    Statement.parse .input "a \\\nb".toList =
        .ok [⟨["a", "b"].map fun w => .literal w.toList, [], none⟩] ∧
      statementStart "a \\\nb".toList = 4 ∧
    Statement.parse .input "a;\u3000b".toList =
        .ok [⟨[.literal "a".toList], [], none⟩, ⟨[.literal "\u3000b".toList], [], none⟩] ∧
      statementStart "a;\u3000b".toList = 5 := by
  refine ⟨by cbv, by cbv, by cbv, by cbv, by cbv, by cbv, by cbv, by cbv, by cbv⟩

end Editing

end MenuLine
