import MenuLine.Proofs.Respelling

/-!
# Canonical text is read back

The canonical text of a statement puts one blank between two words and around
each mark. If its words need no quotes, every word, every name of a filter and
the name of the file are read back in the state of the scanner that they were
written for, and a semicolon divides the statements. Words that were read from
a line without quoted texts are such words. The main statement is
`Statement.parse_canonical`.
-/

namespace MenuLine

namespace Text

/-- The name of a filter or of a file. -/
def IsName (t : Text) : Prop := t ≠ [] ∧ ∀ c ∈ t, isWordChar .input c = true

/-- A word that can be written without quotes. -/
def IsBareWord (t : Text) : Prop := t.IsName ∧ ∀ c ∈ t.head?, isQuote c = false

instance (t : Text) : Decidable t.IsName :=
  decidable_of_iff (t ≠ [] ∧ t.all (isWordChar .input) = true) (by simp [IsName])

instance (t : Text) : Decidable t.IsBareWord :=
  decidable_of_iff (t.IsName ∧ (t.head?.all fun c => !isQuote c) = true)
    (by cases t <;> simp [IsBareWord])

theorem spaced_cons_eq (w : Text) (ws : List Text) :
    spaced (w :: ws) = w ++ ws.flatMap (' ' :: ·) := by
  have h := cons_spaced (List.cons_ne_nil w ws)
  rw [List.flatMap_cons, List.cons_append] at h
  exact (List.cons.inj h).2

theorem Spaced.append {t u : Text} (ht : t.Spaced) (hu : u.Spaced) : Spaced (t ++ u) := by
  cases t with
  | nil => exact hu
  | cons c r => exact ht

theorem spaced_flatMap {α : Type} {f : α → Text} (hf : ∀ x, (f x).Spaced) (xs : List α) :
    Spaced (xs.flatMap f) := by
  induction xs with
  | nil => simp [Spaced]
  | cons x xs ih =>
      rw [List.flatMap_cons]
      exact (hf x).append ih

theorem spaced_words (ws : List Text) : Spaced (ws.flatMap (' ' :: ·)) :=
  spaced_flatMap (by simp [Spaced]) ws

theorem spaced_filters (fs : List FilterCall) : Spaced (fs.flatMap FilterCall.text) :=
  spaced_flatMap (by simp [Spaced, FilterCall.text]) fs

end Text

def Segment.IsBare : Segment → Prop
  | .literal w => w.IsBareWord
  | .placeholder _ _ => False

instance : (segment : Segment) → Decidable segment.IsBare
  | .literal w => inferInstanceAs (Decidable w.IsBareWord)
  | .placeholder _ _ => .isFalse id

namespace Statement

/-- Statements of which every word and name is read back as it stands. -/
structure IsBare (s : Statement) : Prop where
  nonempty : s.segments ≠ []
  segments : ∀ segment ∈ s.segments, segment.IsBare
  filters : ∀ f ∈ s.filters, f.name.IsName ∧ ∀ arg ∈ f.args, arg.IsBareWord
  output : ∀ file ∈ s.output, file.IsName

theorem isBare_iff (s : Statement) :
    (s.segments ≠ [] ∧ (∀ segment ∈ s.segments, segment.IsBare) ∧
      (∀ f ∈ s.filters, f.name.IsName ∧ ∀ arg ∈ f.args, arg.IsBareWord) ∧
      ∀ file ∈ s.output, file.IsName) ↔ s.IsBare :=
  ⟨fun ⟨hne, hsegments, hfilters, houtput⟩ => ⟨hne, hsegments, hfilters, houtput⟩,
    fun ⟨hne, hsegments, hfilters, houtput⟩ => ⟨hne, hsegments, hfilters, houtput⟩⟩

instance (s : Statement) : Decidable s.IsBare := decidable_of_iff _ (isBare_iff s)

/-- How the name of a file is written behind the words and the filters. -/
def outputText : Option Text → Text
  | none => []
  | some file => " > ".toList ++ file

theorem spaced_outputText (output : Option Text) : (outputText output).Spaced := by
  cases output with
  | none => simp [Text.Spaced, outputText]
  | some file => simp [Text.Spaced, outputText]

theorem text_eq (s : Statement) :
    s.text = words s.segments ++ (s.filters.flatMap FilterCall.text ++ outputText s.output) := by
  rw [text, List.append_assoc]
  rfl

/-- The texts of statements, one behind the other. -/
def canonical (ss : List Statement) : Text := List.intercalate "; ".toList (ss.map text)

theorem canonical_cons_cons (s u : Statement) (ss : List Statement) :
    canonical (s :: u :: ss) = s.text ++ ';' :: (' ' :: canonical (u :: ss)) := by
  simp [canonical, List.intercalate]

end Statement

namespace Scanner

open Grammar

/-! ## Words and names that are pulled -/

theorem pull_bareWord {word follow : Text} (hword : word.IsBareWord) (hfollow : follow.Spaced) :
    pull .input ⟨' ' :: (word ++ follow), .command⟩ = token .word word follow .command := by
  obtain ⟨hname, hquote⟩ := hword
  rw [pull_space (by simp)]
  exact pullCommand_word hname hquote hfollow

theorem pull_filterName {name follow : Text} (hname : name.IsName) (hfollow : follow.Spaced) :
    pull .input ⟨' ' :: (name ++ follow), .filterName⟩ = token .word name follow .command := by
  rw [pull_space (by simp)]
  exact pullFilterName_word hname hfollow

theorem pull_filename {file : Text} (hfile : file.IsName) :
    pull .input ⟨' ' :: file, .filename⟩ = token .filename file [] .command := by
  have hnil : Text.Spaced [] := by simp [Text.Spaced]
  have hpull := pullFilename_word hfile hnil
  rw [List.append_nil] at hpull
  rw [pull_space (by simp)]
  exact hpull

/-! ## The tokens of a statement -/

theorem exists_words {ws : List Text} (hws : ∀ w ∈ ws, w.IsBareWord) {follow : Text}
    (hfollow : follow.Spaced) :
    ∃ ts, Pulls .input ⟨ws.flatMap (' ' :: ·) ++ follow, .command⟩ ts ⟨follow, .command⟩ ∧
      Words ts ws := by
  induction ws with
  | nil => exact ⟨[], .nil _, .nil⟩
  | cons w ws ih =>
      obtain ⟨ts, hpulls, hwords⟩ := ih fun v hv => hws v (List.mem_cons_of_mem w hv)
      have hspaced := (Text.spaced_words ws).append hfollow
      have hpull := pull_bareWord (hws w List.mem_cons_self) hspaced
      rw [List.flatMap_cons, List.append_assoc, List.cons_append]
      exact ⟨_, .cons hpull hpulls, .word rfl hwords⟩

theorem exists_filters {fs : List FilterCall}
    (hfs : ∀ f ∈ fs, f.name.IsName ∧ ∀ arg ∈ f.args, arg.IsBareWord) {follow : Text}
    (hfollow : follow.Spaced) :
    ∃ ts, Pulls .input ⟨fs.flatMap FilterCall.text ++ follow, .command⟩ ts ⟨follow, .command⟩ ∧
      Filters ts fs := by
  induction fs with
  | nil => exact ⟨[], .nil _, .nil⟩
  | cons f fs ih =>
      obtain ⟨hname, hargs⟩ := hfs f List.mem_cons_self
      obtain ⟨us, hpulls, hfilters⟩ := ih fun g hg => hfs g (List.mem_cons_of_mem f hg)
      have hspaced := (Text.spaced_filters fs).append hfollow
      obtain ⟨ts, hargsPulls, hwords⟩ := exists_words hargs hspaced
      have hpull := pull_filterName hname ((Text.spaced_words f.args).append hspaced)
      have hline : (f :: fs).flatMap FilterCall.text ++ follow =
          ' ' :: '|' :: ' ' :: (f.name ++ (f.args.flatMap (' ' :: ·) ++
            (fs.flatMap FilterCall.text ++ follow))) := by
        simp [FilterCall.text, Text.spaced_cons_eq]
      rw [hline]
      exact ⟨_, .cons rfl (.cons hpull (hargsPulls.append hpulls)), .cons rfl rfl hwords hfilters⟩

theorem exists_output {output : Option Text} (houtput : ∀ file ∈ output, file.IsName) :
    ∃ ts, Pulls .input ⟨Statement.outputText output, .command⟩ ts ⟨[], .command⟩ ∧
      Output ts output := by
  cases output with
  | none => exact ⟨[], .nil _, .unnamed⟩
  | some file =>
      have hpull := pull_filename (houtput file rfl)
      exact ⟨_, .cons rfl (.cons hpull (.nil _)), .named rfl rfl⟩

end Scanner

theorem Reading.Complete.expecting_ne {c : List Statement} {s : Statement} {r : Reading}
    (h : Reading.Complete c s r) : r.expecting ≠ .statement := by
  rcases h with hopen | _
  · rcases hopen with _ | _ <;> simp
  · simp

namespace Statement

open Scanner Grammar Reading

theorem exists_map_literal {segments : List Segment} (h : ∀ segment ∈ segments, segment.IsBare) :
    ∃ ws : List Text, segments = ws.map .literal ∧ ∀ w ∈ ws, w.IsBareWord := by
  induction segments with
  | nil => exact ⟨[], rfl, by simp⟩
  | cons segment segments ih =>
      obtain ⟨ws, rfl, hws⟩ := ih fun u hu => h u (List.mem_cons_of_mem segment hu)
      have hsegment := h segment List.mem_cons_self
      cases segment with
      | literal w => exact ⟨w :: ws, rfl, List.forall_mem_cons.2 ⟨hsegment, hws⟩⟩
      | placeholder slot completion => exact hsegment.elim

theorem IsBare.exists_words {s : Statement} (h : s.IsBare) :
    ∃ w ws, s.segments = (w :: ws).map .literal ∧ ∀ v ∈ w :: ws, v.IsBareWord := by
  obtain ⟨ws, hsegments, hws⟩ := exists_map_literal h.segments
  cases ws with
  | nil => exact absurd hsegments h.nonempty
  | cons w ws => exact ⟨w, ws, hsegments, hws⟩

theorem words_literals (ws : List Text) : words (ws.map .literal) = Text.spaced ws := by
  have hwords : (ws.map Segment.literal).map Segment.text = ws := by simp [Function.comp_def]
  rw [words, hwords]

theorem IsBare.exists_scan {s : Statement} (h : s.IsBare) :
    ∃ ts, scan .input (' ' :: s.text) = (ts, none) ∧ IsStatement ts s := by
  obtain ⟨w, ws, hsegments, hws⟩ := h.exists_words
  obtain ⟨os, houtputPulls, houtput⟩ := exists_output h.output
  obtain ⟨fs, hfiltersPulls, hfilters⟩ := exists_filters h.filters (spaced_outputText s.output)
  have hspaced := (Text.spaced_filters s.filters).append (spaced_outputText s.output)
  obtain ⟨ts, hwordsPulls, hwords⟩ := Scanner.exists_words
    (fun v hv => hws v (List.mem_cons_of_mem w hv)) hspaced
  have hpull := pull_bareWord (hws w List.mem_cons_self) ((Text.spaced_words ws).append hspaced)
  have hline : s.text = w ++ (ws.flatMap (' ' :: ·) ++
      (s.filters.flatMap FilterCall.text ++ outputText s.output)) := by
    rw [text_eq, hsegments, words_literals, Text.spaced_cons_eq, List.append_assoc]
  -- The blank in front lets the first word be pulled like all the others.
  have hrest := hwordsPulls.append (hfiltersPulls.append houtputPulls)
  have hscan := scan_of_pulls_ended (.cons hpull hrest) (.line rfl)
  rw [← hline] at hscan
  have hstatement := IsStatement.mk (t := ⟨.word, w⟩) rfl hwords hfilters houtput
  rw [← hsegments] at hstatement
  exact ⟨_, hscan, hstatement⟩

theorem parse_space (line : Text) : parse .input (' ' :: line) = parse .input line := by
  have hscan : scan .input (' ' :: line) = scan .input line :=
    scan_blank_append Text.blank_space line
  rw [parse, hscan]
  rfl

/-! ## Statements that are read back -/

theorem parse_text {s : Statement} (h : s.IsBare) : parse .input s.text = .ok [s] := by
  obtain ⟨ts, hscan, hstatement⟩ := h.exists_scan
  obtain ⟨r, hsteps, hcomplete, hs⟩ := hstatement.steps []
  rw [← parse_space, parse_of_scan hscan, ofTokens, Reading.start, hsteps]
  exact hcomplete.finish hs

theorem parse_text_append {s : Statement} (h : s.IsBare) (line : Text) :
    parse .input (s.text ++ ';' :: line) = (parse .input line).map (s :: ·) := by
  obtain ⟨ts, hscan, hstatement⟩ := h.exists_scan
  obtain ⟨r, hsteps, hcomplete, hs⟩ := hstatement.steps []
  rw [← parse_space, ← List.cons_append, parse_append hscan hsteps hcomplete.expecting_ne,
    hcomplete.finish hs]
  rfl

theorem parse_canonical_of_isBare {ss : List Statement} (hne : ss ≠ [])
    (h : ∀ s ∈ ss, s.IsBare) : parse .input (canonical ss) = .ok ss := by
  induction ss with
  | nil => exact absurd rfl hne
  | cons s ss ih =>
      have hs := h s List.mem_cons_self
      have hss : ∀ u ∈ ss, u.IsBare := fun u hu => h u (List.mem_cons_of_mem s hu)
      cases ss with
      | nil =>
          have hcanonical : canonical [s] = s.text := by simp [canonical, List.intercalate]
          rw [hcanonical]
          exact parse_text hs
      | cons u ss =>
          rw [canonical_cons_cons, parse_text_append hs, parse_space,
            ih (List.cons_ne_nil u ss) hss]
          rfl

end Statement

/-! ## Lines without quotes -/

/-- A token of a line without quoted texts, behind a pipe or elsewhere. -/
structure Token.Unquoted (piped : Bool) (t : Token) : Prop where
  kind : t.kind ≠ .quoted
  name : t.kind = .word ∨ t.kind = .filename → t.text.IsName
  bare : t.kind = .word → piped = false → ∀ c ∈ t.text.head?, isQuote c = false

namespace Grammar

/-- Tokens of a line without quoted texts. -/
inductive Spoken : Bool → List Token → Prop where
  | nil (piped : Bool) : Spoken piped []
  | cons {piped t ts} (htoken : t.Unquoted piped) (h : Spoken (t.kind == .pipe) ts) :
      Spoken piped (t :: ts)

/-- Behind anything but a pipe. -/
theorem Spoken.rest {piped : Bool} {t : Token} {ts : List Token} (h : Spoken piped (t :: ts))
    (ht : t.kind ≠ .pipe) : Spoken false ts := by
  cases h with
  | cons htoken h =>
      rw [beq_eq_false_iff_ne.2 ht] at h
      exact h

theorem Spoken.word {t : Token} {w : Text} {ts : List Token} (h : Spoken false (t :: ts))
    (hword : t.word? = some w) : w.IsBareWord ∧ Spoken false ts := by
  have hrest := h
  cases h with
  | cons htoken h =>
      rcases Reading.word?_eq_some_iff.1 hword with ⟨hkind, rfl⟩ | ⟨hkind, -⟩
      · exact ⟨⟨htoken.name (.inl hkind), htoken.bare hkind rfl⟩, hrest.rest (by simp [hkind])⟩
      · exact absurd hkind htoken.kind

theorem Words.bare {ts us : List Token} {ws : List Text} (h : Words ts ws)
    (hspoken : Spoken false (ts ++ us)) : (∀ w ∈ ws, w.IsBareWord) ∧ Spoken false us := by
  induction h with
  | nil => exact ⟨by simp, hspoken⟩
  | word hword hwords ih =>
      obtain ⟨hw, hrest⟩ := hspoken.word hword
      obtain ⟨hws, hus⟩ := ih hrest
      exact ⟨List.forall_mem_cons.2 ⟨hw, hws⟩, hus⟩
  | continuation hkind hwords ih => exact ih (hspoken.rest (by simp [hkind]))

theorem Filters.bare {ts us : List Token} {calls : List FilterCall} (h : Filters ts calls)
    (hspoken : Spoken false (ts ++ us)) :
    (∀ f ∈ calls, f.name.IsName ∧ ∀ arg ∈ f.args, arg.IsBareWord) ∧ Spoken false us := by
  induction h with
  | nil => exact ⟨by simp, hspoken⟩
  | @cons pipe name ts args vs calls hpipe hname hargs hfilters ih =>
      rw [List.cons_append, List.cons_append, List.append_assoc] at hspoken
      cases hspoken with
      | cons _ hspoken =>
          have hrest := hspoken.rest (by simp [hname])
          cases hspoken with
          | cons htoken _ =>
              obtain ⟨hbare, hvs⟩ := hargs.bare hrest
              obtain ⟨hcalls, hus⟩ := ih hvs
              exact ⟨List.forall_mem_cons.2 ⟨⟨htoken.name (.inl hname), hbare⟩, hcalls⟩, hus⟩

theorem Output.bare {ts us : List Token} {output : Option Text} (h : Output ts output)
    (hspoken : Spoken false (ts ++ us)) : (∀ file ∈ output, file.IsName) ∧ Spoken false us := by
  cases h with
  | unnamed => exact ⟨by simp, hspoken⟩
  | @named redirect file hredirect hfile =>
      have hrest := hspoken.rest (by simp [hredirect])
      have hus := hrest.rest (by simp [hfile])
      cases hrest with
      | cons htoken _ =>
          refine ⟨fun name hname => ?_, hus⟩
          cases hname
          exact htoken.name (.inr hfile)

theorem IsStatement.bare {ts us : List Token} {s : Statement} (h : IsStatement ts s)
    (hspoken : Spoken false (ts ++ us)) : s.IsBare ∧ Spoken false us := by
  obtain ⟨hfirst, hwords, hfilters, houtput⟩ := h
  rw [List.cons_append, List.append_assoc, List.append_assoc] at hspoken
  obtain ⟨hw, hrest⟩ := hspoken.word hfirst
  obtain ⟨hws, hrest⟩ := hwords.bare hrest
  obtain ⟨hcalls, hrest⟩ := hfilters.bare hrest
  obtain ⟨hfile, hus⟩ := houtput.bare hrest
  refine ⟨⟨by simp, ?_, hcalls, hfile⟩, hus⟩
  intro segment hsegment
  obtain ⟨v, hv, rfl⟩ := List.mem_map.1 hsegment
  exact List.forall_mem_cons.2 ⟨hw, hws⟩ v hv

theorem Continuations.bare {cs us : List Token} (h : Continuations cs)
    (hspoken : Spoken false (cs ++ us)) : Spoken false us := by
  induction cs with
  | nil => exact hspoken
  | cons t cs ih =>
      have ht := h t List.mem_cons_self
      exact ih (fun u hu => h u (List.mem_cons_of_mem t hu)) (hspoken.rest (by simp [ht]))

theorem More.bare {ts : List Token} {ss : List Statement} (h : More ts ss)
    (hspoken : Spoken false ts) : ∀ s ∈ ss, s.IsBare := by
  induction h with
  | nil => simp
  | trailing hsep hcs => simp
  | cons hsep hcs hstatement hmore ih =>
      have hline := hcs.bare (hspoken.rest (by simp [hsep]))
      obtain ⟨hs, hrest⟩ := hstatement.bare hline
      exact List.forall_mem_cons.2 ⟨hs, ih hrest⟩

theorem IsLine.bare {ts : List Token} {ss : List Statement} (h : IsLine ts ss)
    (hspoken : Spoken false ts) : ∀ s ∈ ss, s.IsBare := by
  cases h with
  | blank hcs => simp
  | mk hcs hstatement hmore =>
      obtain ⟨hs, hrest⟩ := hstatement.bare (hcs.bare hspoken)
      exact List.forall_mem_cons.2 ⟨hs, hmore.bare hrest⟩

end Grammar

theorem Piece.wellSpelled {mode : Mode} {line rest : Text} {t : Token}
    (h : Piece mode line t rest) : t.WellSpelled mode := by
  cases h with
  | mk _ _ _ hspelled _ _ => exact hspelled

namespace Scanner

open Grammar

theorem Pulls.spoken {s last : Scanner} {ts : List Token} (h : Pulls .input s ts last)
    (hready : s.Ready) (hts : ∀ t ∈ ts, t.kind ≠ .quoted) {piped : Bool}
    (hpiped : piped = false → s.phase ≠ .filterName) : Spoken piped ts := by
  induction h generalizing piped with
  | nil s => exact .nil piped
  | @cons s t middle ts last hpull h ih =>
      obtain ⟨hpiece, hmiddle⟩ := hready.pulled hpull
      have hspelled := spelled_of_pull hpull
      have hnext := ih hmiddle (fun u hu => hts u (List.mem_cons_of_mem t hu))
        (fun hkind => hspelled.named (beq_eq_false_iff_ne.1 hkind))
      exact .cons ⟨hts t List.mem_cons_self, hpiece.wellSpelled,
        fun hkind hp => hspelled.word hkind (hpiped hp)⟩ hnext

/-- A quoted text begins with a quote of the line. -/
theorem Pulls.kind_ne_quoted {mode : Mode} {s last : Scanner} {ts : List Token}
    (h : Pulls mode s ts last) (hready : s.Ready) (hline : ∀ c ∈ s.rest, isQuote c = false) :
    ∀ t ∈ ts, t.kind ≠ .quoted := by
  induction h with
  | nil s => simp
  | @cons s t middle ts last hpull h ih =>
      obtain ⟨hpiece, hmiddle⟩ := hready.pulled hpull
      have hspelled := spelled_of_pull hpull
      -- The line and the rest have to be variables for the piece to be taken apart.
      generalize s.rest = line at hpiece hline
      generalize hrest : middle.rest = rest at hpiece
      obtain @⟨_, before, source, after, _, -, hsource, -, -, -, -⟩ := hpiece
      refine List.forall_mem_cons.2 ⟨fun hkind => ?_, ih hmiddle fun c hc => ?_⟩
      · obtain ⟨c, hc, hquote⟩ := hspelled.quoted hkind
        cases hsource with
        | source _ =>
            have hmem : c ∈ t.source := by
              simpa [Token.source, hkind] using List.mem_of_mem_head? hc
            have hfalse := hline c (by simp [hmem])
            rw [hquote] at hfalse
            cases hfalse
        | continuation hslash => simp [hkind] at hslash
      · rw [hrest] at hc
        exact hline c (by simp [hc])

end Scanner

namespace Statement

open Scanner Grammar

theorem isBare_of_parse {line : Text} {ss : List Statement} (h : parse .input line = .ok ss)
    (hline : ∀ t ∈ (scan .input line).1, t.kind ≠ .quoted) : ∀ s ∈ ss, s.IsBare := by
  obtain ⟨ts, r, hscan, hsteps, hfinish⟩ := exists_of_parse_eq_ok h
  obtain ⟨last, after, hpulls, -⟩ := exists_pulls_of_scan hscan
  have hplain := kind_ne_placeholder_of_scan hscan
  rw [hscan] at hline
  have hspoken : Spoken false ts := hpulls.spoken (ready_command line) hline (by simp [start])
  have hisLine : IsLine ts ss := by
    apply (steps_finish_eq_ok_iff hplain ss).1
    rw [hsteps]
    exact hfinish
  exact hisLine.bare hspoken

/-- Statements of words and names that need no quotes are what their canonical
texts, joined by semicolons, are read as. Statements that were read from a line
without quotes, or with quotes only inside of its words, are of that kind. -/
theorem parse_canonical :
    (∀ ss : List Statement, ss ≠ [] → (∀ s ∈ ss, s.IsBare) →
      parse .input (canonical ss) = .ok ss) ∧
    ∀ line ss, parse .input line = .ok ss →
      ((∀ c ∈ line, isQuote c = false) ∨ ∀ t ∈ (scan .input line).1, t.kind ≠ .quoted) →
      parse .input (canonical ss) = .ok ss := by
  refine ⟨fun ss hne h => parse_canonical_of_isBare hne h, ?_⟩
  intro line ss hparse hquotes
  have hline : ∀ t ∈ (scan .input line).1, t.kind ≠ .quoted := by
    rcases hquotes with hline | hline
    · obtain ⟨last, hpulls, -⟩ := exists_pulls .input (.start line)
      exact hpulls.kind_ne_quoted (ready_command line) hline
    · exact hline
  have hempty : parse .input (canonical []) = .ok [] := by cbv
  by_cases hne : ss = []
  · rw [hne, hempty]
  · exact parse_canonical_of_isBare hne (isBare_of_parse hparse hline)

/-- Names that begin with a quote and a word that is a backslash, and a line that
is not written canonically. -/
theorem parse_canonical_names_with_quotes :
    parse .input "show it's \\ | 'x a'b > \"f; pwd".toList =
      .ok [⟨["show", "it's", "\\"].map fun w => .literal w.toList,
          [⟨"'x".toList, ["a'b".toList]⟩], some "\"f".toList⟩,
        ⟨[.literal "pwd".toList], [], none⟩] ∧
    parse .input "a b | c > d; e".toList =
      .ok [⟨[.literal "a".toList, .literal "b".toList], [⟨"c".toList, []⟩], some "d".toList⟩,
        ⟨[.literal "e".toList], [], none⟩] := by
  have hline : parse .input " a\tb|c>  d ;e ".toList =
      .ok [⟨[.literal "a".toList, .literal "b".toList], [⟨"c".toList, []⟩], some "d".toList⟩,
        ⟨[.literal "e".toList], [], none⟩] := by cbv
  constructor
  · exact parse_canonical.1 [⟨["show", "it's", "\\"].map fun w => .literal w.toList,
        [⟨"'x".toList, ["a'b".toList]⟩], some "\"f".toList⟩,
      ⟨[.literal "pwd".toList], [], none⟩] (by simp) (by decide)
  · exact parse_canonical.2 _ _ hline (.inl (by simp [isQuote]))

end Statement

end MenuLine
