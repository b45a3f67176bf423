import Mathlib.Data.List.TakeWhile
import MenuLine.Proofs.Thorough

/-!
# The lines that are selected

What the line filter makes of a stream is said here without the chunks in which
it is read. The words of a filter are an option each, wherever they stand and
however often, or a pattern, of which the last counts. The filter writes the
lines that its pattern fits, or the others, up to the first line that is not
UTF-8. The main statement is `Grep.selects_filterBy`.
-/

namespace MenuLine

namespace Grep

/-! ## The words of a filter -/

/-- The words that are no options. The last of them is the pattern. -/
def patternWords (args : List Text) : List Text :=
  args.filter fun arg => arg ≠ caseFlag ∧ arg ≠ invertFlag

def lastPattern (args : List Text) : Text := (patternWords args).getLast?.getD []

theorem lastPattern_congr {args args' : List Text} (h : patternWords args' = patternWords args) :
    lastPattern args' = lastPattern args := by
  rw [lastPattern, lastPattern, h]

theorem patternWords_cons_of_ne {arg : Text} (hcase : arg ≠ caseFlag)
    (hinvert : arg ≠ invertFlag) (args : List Text) :
    patternWords (arg :: args) = arg :: patternWords args :=
  List.filter_cons_of_pos (by simp [hcase, hinvert])

theorem foldl_add (options : Options) (args : List Text) :
    args.foldl Options.add options =
      ⟨options.caseInsensitive || decide (caseFlag ∈ args),
        options.invert || decide (invertFlag ∈ args),
        (patternWords args).getLast?.getD options.pattern⟩ := by
  induction args generalizing options with
  | nil => simp [patternWords]
  | cons arg args ih =>
      have hne : caseFlag ≠ invertFlag := by decide
      rw [List.foldl_cons, ih, Options.add]
      by_cases hcase : arg = caseFlag
      · subst hcase
        have hwords : patternWords (caseFlag :: args) = patternWords args := rfl
        simp [hwords, hne.symm]
      · by_cases hinvert : arg = invertFlag
        · subst hinvert
          have hwords : patternWords (invertFlag :: args) = patternWords args := rfl
          simp [hwords, hne, hne.symm]
        · rw [patternWords_cons_of_ne hcase hinvert, List.getLast?_cons]
          simp [hcase, hinvert, Ne.symm hcase, Ne.symm hinvert]

theorem ofArgs_eq (args : List Text) :
    Options.ofArgs args =
      ⟨decide (caseFlag ∈ args), decide (invertFlag ∈ args), lastPattern args⟩ := by
  rw [Options.ofArgs, foldl_add]
  simp [lastPattern]

theorem eq_nil_iff (args : List Text) :
    args = [] ↔ patternWords args = [] ∧ caseFlag ∉ args ∧ invertFlag ∉ args := by
  cases args with
  | nil => simp [patternWords]
  | cons arg args =>
      by_cases hcase : arg = caseFlag
      · simp [hcase]
      · by_cases hinvert : arg = invertFlag
        · simp [hinvert]
        · simp [patternWords_cons_of_ne hcase hinvert]

/-- Where the options stand, and how often, makes no difference. -/
theorem filterBy_congr (patterns : Patterns) {args args' : List Text}
    (hwords : patternWords args' = patternWords args)
    (hcase : caseFlag ∈ args' ↔ caseFlag ∈ args)
    (hinvert : invertFlag ∈ args' ↔ invertFlag ∈ args) :
    filterBy patterns args' = filterBy patterns args := by
  have hnil : args' = [] ↔ args = [] := by
    rw [eq_nil_iff args', eq_nil_iff args, hwords, hcase, hinvert]
  have hempty : args'.isEmpty = args.isEmpty := by
    rw [Bool.eq_iff_iff, List.isEmpty_iff, List.isEmpty_iff, hnil]
  have hoptions : Options.ofArgs args' = Options.ofArgs args := by
    rw [ofArgs_eq, ofArgs_eq, lastPattern_congr hwords]
    simp only [hcase, hinvert]
  simp only [filterBy, hempty, hoptions]

/-! ## The lines of a stream -/

/-- A stream and its lines. A line ends at a newline, or at a carriage return
and a newline, and the last one may end where the stream does. -/
inductive Lines : Bytes → List Bytes → Prop where
  | nil : Lines [] []
  | last {line} (hne : line ≠ []) (hline : newline ∉ line) : Lines line [line]
  | feed {line rest lines} (hline : newline ∉ line) (hreturn : line.getLast? ≠ some carriageReturn)
      (h : Lines rest lines) : Lines (line ++ newline :: rest) (line :: lines)
  | returnFeed {line rest lines} (hline : newline ∉ line) (h : Lines rest lines) :
      Lines (line ++ carriageReturn :: newline :: rest) (line :: lines)

theorem lines_cons {line : Bytes} (hline : newline ∉ line) (rest : Bytes) :
    Bytes.lines (line ++ newline :: rest) = dropMark carriageReturn line :: Bytes.lines rest := by
  have hcut : cutLines newline (line ++ [newline]) = ([line], []) := by
    induction line with
    | nil => rfl
    | cons c line ih =>
        obtain ⟨hc, hline⟩ := not_or.1 fun h => hline (List.mem_cons.2 h)
        rw [List.cons_append, cutLines_cons_of_ne (Ne.symm hc), ih hline]
  have happend := lines_append (line ++ [newline]) rest
  rw [hcut] at happend
  simpa using happend

theorem lines_lines (stream : Bytes) : Lines stream (Bytes.lines stream) := by
  by_cases hmem : newline ∈ stream
  · obtain ⟨line, rest, hstream, hline⟩ := List.eq_append_cons_of_mem hmem
    have hlt : rest.length < stream.length := by
      rw [hstream, List.length_append, List.length_cons]
      omega
    have ih : Lines rest (Bytes.lines rest) := lines_lines rest
    rw [hstream, lines_cons hline, dropMark]
    split
    · next hreturn =>
        obtain ⟨front, rfl⟩ := List.getLast?_eq_some_iff.1 hreturn
        rw [List.dropLast_concat, List.append_assoc, List.singleton_append]
        exact .returnFeed (fun h => hline (List.mem_append_left _ h)) ih
    · next hreturn => exact .feed hline hreturn ih
  · rw [lines_of_notMem hmem]
    cases stream with
    | nil => exact .nil
    | cons c stream => exact .last (List.cons_ne_nil c stream) hmem
termination_by stream.length

/-- A stream has the lines that the filter cuts it into, and no others. -/
theorem lines_iff {stream : Bytes} {lines : List Bytes} :
    Lines stream lines ↔ lines = Bytes.lines stream := by
  constructor
  · intro h
    induction h with
    | nil => rfl
    | @last line hne hline =>
        have hempty : line.isEmpty = false := List.isEmpty_eq_false_iff.2 hne
        simp [lines_of_notMem hline, hempty]
    | @feed line rest lines hline hreturn _ ih =>
        rw [lines_cons hline, dropMark, if_neg hreturn, ih]
    | @returnFeed line rest lines hline _ ih =>
        have hmarked : newline ∉ line ++ [carriageReturn] := by
          rw [List.mem_append, List.mem_singleton]
          exact not_or.2 ⟨hline, by decide⟩
        have hcut : line ++ carriageReturn :: newline :: rest =
            (line ++ [carriageReturn]) ++ newline :: rest := by simp
        rw [hcut, lines_cons hmarked, dropMark, if_pos List.getLast?_concat,
          List.dropLast_concat, ih]
  · rintro rfl
    exact lines_lines stream

/-! ## What is written -/

/-- The lines in front of the first that is not UTF-8. -/
def readable (lines : List Bytes) : List Bytes :=
  lines.takeWhile fun line => (Text.ofBytes? line).isSome

/-- Whether a line is UTF-8 and passes a test. -/
def passes (test : Text → Bool) (line : Bytes) : Bool := (Text.ofBytes? line).any test

/-- However a stream is cut, the filter writes the chosen ones of its readable
lines, in their order and a newline behind each, and it fails if there is a line
that it cannot read. -/
def Selects (p : Program) (chosen : Bytes → Bool) : Prop :=
  ∀ chunks : List Bytes, ∃ lines, Lines chunks.flatten lines ∧
    p.output chunks p.start = ((readable lines).filter chosen).flatMap (· ++ [newline]) ∧
    p.ending chunks p.start = if readable lines = lines then .returned else .failed .notUtf8

theorem Selects.congr {p : Program} {chosen chosen' : Bytes → Bool} (h : Selects p chosen)
    (hchosen : ∀ line, (Text.ofBytes? line).isSome = true → chosen' line = chosen line) :
    Selects p chosen' := by
  intro chunks
  obtain ⟨lines, hlines, houtput, hending⟩ := h chunks
  refine ⟨lines, hlines, ?_, hending⟩
  have hvalid : ∀ line ∈ readable lines, (Text.ofBytes? line).isSome = true :=
    fun line hline => List.mem_takeWhile_imp (p := fun l => (Text.ofBytes? l).isSome) hline
  have hfilter : (readable lines).filter chosen' = (readable lines).filter chosen :=
    List.filter_congr fun line hline => hchosen line (hvalid line hline)
  rw [houtput, hfilter]

theorem select_fst (keep : Text → Bool) (lines : List Bytes) :
    (select keep lines).1 = ((readable lines).filter (passes keep)).map (· ++ [newline]) := by
  induction lines with
  | nil => rfl
  | cons line lines ih =>
      cases ht : Text.ofBytes? line with
      | none => simp [select, readable, ht]
      | some text =>
          unfold readable at ih
          cases hkeep : keep text <;> simp [select, readable, passes, ht, hkeep, ih]

theorem selects_lineProgram (keep : Text → Bool) : Selects (lineProgram keep) (passes keep) := by
  intro chunks
  have hnil : newline ∉ ([] : Bytes) := List.not_mem_nil
  refine ⟨Bytes.lines chunks.flatten, lines_iff.2 rfl, ?_, ?_⟩
  · calc
      _ = (select keep (Bytes.lines ([] ++ chunks.flatten))).1.flatten :=
        output_lineProgram chunks hnil
      _ = _ := by rw [select_fst, List.nil_append, List.flatMap]
  · have hreadable : readable (Bytes.lines chunks.flatten) = Bytes.lines chunks.flatten ↔
        (select keep (Bytes.lines ([] ++ chunks.flatten))).2 = true := by
      rw [select_snd, List.nil_append, List.all_eq_true]
      exact List.takeWhile_eq_self_iff
    calc
      _ = if (select keep (Bytes.lines ([] ++ chunks.flatten))).2 then Ending.returned
          else .failed .notUtf8 := ending_lineProgram chunks hnil
      _ = _ := by simp only [hreadable]

theorem selects_filterBy_of_ok {patterns : Patterns} {args : List Text} {test : Text → Bool}
    (hargs : args ≠ [])
    (htest : patterns (decide (caseFlag ∈ args)) (lastPattern args) = .ok test) :
    Selects (filterBy patterns args)
      fun line => passes test line != decide (invertFlag ∈ args) := by
  have hfilter : filterBy patterns args =
      lineProgram fun line => test line != decide (invertFlag ∈ args) := by
    simp only [filterBy, ofArgs_eq, htest, List.isEmpty_iff, hargs, if_false]
  rw [hfilter]
  apply (selects_lineProgram _).congr
  intro line hline
  obtain ⟨text, htext⟩ := Option.isSome_iff_exists.1 hline
  simp [passes, htext]

/-- Whatever the patterns mean: the line filter writes the lines on which the
test of its pattern differs from the presence of the inverting option. Options
may be moved and repeated. With the inverting option and without it, every line
that can be read goes to one of the two outputs and not to the other. -/
theorem selects_filterBy {patterns : Patterns} {args : List Text} {test : Text → Bool}
    (hargs : args ≠ [])
    (htest : patterns (decide (caseFlag ∈ args)) (lastPattern args) = .ok test) :
    Selects (filterBy patterns args)
        (fun line => passes test line != decide (invertFlag ∈ args)) ∧
    (∀ args', patternWords args' = patternWords args → (caseFlag ∈ args' ↔ caseFlag ∈ args) →
      (invertFlag ∈ args' ↔ invertFlag ∈ args) →
      filterBy patterns args' = filterBy patterns args) ∧
    ∀ args', args' ≠ [] → patternWords args' = patternWords args →
      (caseFlag ∈ args' ↔ caseFlag ∈ args) → (invertFlag ∈ args' ↔ invertFlag ∉ args) →
      ∃ chosen, Selects (filterBy patterns args) chosen ∧
        Selects (filterBy patterns args') fun line => !chosen line := by
  have hselects := selects_filterBy_of_ok hargs htest
  refine ⟨hselects, fun args' => filterBy_congr patterns, ?_⟩
  intro args' hargs' hwords hcase hinvert
  have htest' : patterns (decide (caseFlag ∈ args')) (lastPattern args') = .ok test := by
    rw [lastPattern_congr hwords, decide_eq_decide.2 hcase, htest]
  have hinverted : decide (invertFlag ∈ args') = !decide (invertFlag ∈ args) := by
    rw [← decide_not, decide_eq_decide.2 hinvert]
  refine ⟨_, hselects, (selects_filterBy_of_ok hargs' htest').congr fun line _ => ?_⟩
  rw [hinverted]
  cases passes test line <;> cases decide (invertFlag ∈ args) <;> rfl

/-- Two patterns between options, a stream in three chunks that divide lines, an
empty line, and a last line that is not UTF-8. -/
theorem selects_filterBy_three_chunks :
    let args := ["x", "-v", "o", "-v"].map String.toList
    let args' := ["x", "o"].map String.toList
    let chunks : List Bytes := [Text.bytes "foo\r\nba".toList, Text.bytes "r\n\no".toList, [255]]
    args ≠ [] ∧ args' ≠ [] ∧ patternWords args' = patternWords args ∧
      (∃ test, regularExpressions (decide (caseFlag ∈ args)) (lastPattern args) = .ok test ∧
        Selects (filter args) fun line => passes test line != decide (invertFlag ∈ args)) ∧
      (∃ chosen, Selects (filter args) chosen ∧ Selects (filter args') fun line => !chosen line) ∧
      (filter args).output chunks (filter args).start = Text.bytes "bar\n\n".toList ∧
      (filter args').output chunks (filter args').start = Text.bytes "foo\n".toList ∧
      (filter args).ending chunks (filter args).start = .failed .notUtf8 := by
  intro args args' chunks
  have hargs : args ≠ [] := by decide
  have hargs' : args' ≠ [] := by decide
  have hwords : patternWords args' = patternWords args := by decide
  have hcase : caseFlag ∈ args' ↔ caseFlag ∈ args := by decide
  have hinvert : invertFlag ∈ args' ↔ invertFlag ∉ args := by decide
  obtain ⟨e, he⟩ : ∃ e, Pattern.compile false ['o'] = .ok e := ⟨_, rfl⟩
  have hpattern : lastPattern args = ['o'] := by decide
  have hflag : decide (caseFlag ∈ args) = false := by decide
  have htest : regularExpressions (decide (caseFlag ∈ args)) (lastPattern args) =
      .ok e.isMatch := by
    simp only [regularExpressions, hpattern, hflag, he]
  obtain ⟨hselects, -, hpart⟩ := selects_filterBy hargs htest
  exact ⟨hargs, hargs', hwords, ⟨_, htest, hselects⟩,
    hpart args' hargs' hwords hcase hinvert, by decide +kernel, by decide +kernel,
    by decide +kernel⟩

end Grep

end MenuLine
