import MenuLine.Filter.Grep
import MenuLine.Proofs.Transform

/-!
# What the line filter writes

The filter works on every chunk as it comes and keeps the beginning of a line
that is not complete. In the end it has written what it selects from the lines
of the whole stream, so it is steady.
-/

namespace MenuLine

section cutLines

variable {α : Type} [DecidableEq α] {newline : α}

theorem cutLines_cons_self (t : List α) :
    cutLines newline (newline :: t) = ([] :: (cutLines newline t).1, (cutLines newline t).2) := by
  simp [cutLines]

theorem cutLines_cons_of_ne {c : α} (hc : c ≠ newline) (t : List α) :
    cutLines newline (c :: t) =
      match (cutLines newline t).1 with
      | [] => ([], c :: (cutLines newline t).2)
      | line :: lines => ((c :: line) :: lines, (cutLines newline t).2) := by
  simp only [cutLines, if_neg hc]
  rfl

/-- What follows the last newline is held back until more comes. -/
theorem cutLines_append (s t : List α) :
    cutLines newline (s ++ t) =
      ((cutLines newline s).1 ++ (cutLines newline ((cutLines newline s).2 ++ t)).1,
        (cutLines newline ((cutLines newline s).2 ++ t)).2) := by
  induction s with
  | nil => rfl
  | cons c s ih =>
      by_cases hc : c = newline
      · subst hc
        rw [List.cons_append, cutLines_cons_self, cutLines_cons_self, ih, List.cons_append]
      · rw [List.cons_append, cutLines_cons_of_ne hc, cutLines_cons_of_ne hc, ih]
        rcases (cutLines newline s).1 with _ | ⟨line, lines⟩
        · rw [List.cons_append, cutLines_cons_of_ne hc, List.nil_append, List.nil_append]
        · rfl

theorem cutLines_of_notMem {t : List α} (ht : newline ∉ t) : cutLines newline t = ([], t) := by
  induction t with
  | nil => rfl
  | cons c t ih =>
      obtain ⟨hc, ht⟩ := not_or.1 (fun h => ht (List.mem_cons.2 h))
      rw [cutLines_cons_of_ne (Ne.symm hc), ih ht]

theorem notMem_cutLines_snd (newline : α) (t : List α) : newline ∉ (cutLines newline t).2 := by
  induction t with
  | nil => exact List.not_mem_nil
  | cons c t ih =>
      by_cases hc : c = newline
      · subst hc
        rwa [cutLines_cons_self]
      · rw [cutLines_cons_of_ne hc]
        rcases (cutLines newline t).1 with _ | ⟨line, lines⟩
        · exact List.not_mem_cons_of_ne_of_not_mem (Ne.symm hc) ih
        · exact ih

end cutLines

namespace Burst

variable {failed : IoError → ρ}

theorem written_emitAllOr (chunks : List Bytes) (next : Burst σ ρ) :
    (emitAllOr failed chunks next).written = chunks.flatten ++ next.written := by
  induction chunks with
  | nil => rfl
  | cons chunk chunks ih =>
      calc
        _ = chunk ++ (emitAllOr failed chunks next).written := rfl
        _ = _ := by rw [ih, List.flatten_cons, List.append_assoc]

theorem outcome_emitAllOr (chunks : List Bytes) (next : Burst σ ρ) :
    (emitAllOr failed chunks next).outcome = next.outcome := by
  induction chunks with
  | nil => rfl
  | cons chunk chunks ih => exact ih

end Burst

theorem Program.output_emitAllOr {p : Program} (chunks written : List Bytes)
    (next : Burst p.State Ending) :
    p.output chunks (.emitAllOr .failed written next) =
      written.flatten ++ p.output chunks next := by
  cases chunks <;>
    simp [output, Burst.written_emitAllOr, Burst.outcome_emitAllOr, List.append_assoc]

namespace Grep

variable {keep : Text → Bool}

theorem select_append (lines more : List Bytes) :
    select keep (lines ++ more) =
      if (select keep lines).2 then
        ((select keep lines).1 ++ (select keep more).1, (select keep more).2)
      else select keep lines := by
  induction lines with
  | nil => rfl
  | cons line lines ih =>
      cases ht : Text.ofBytes? line with
      | none => simp [select, ht]
      | some text =>
          by_cases hk : keep text <;> by_cases hv : (select keep lines).2 <;>
            simp [select, ht, hk, hv, ih]

theorem written_emit (lines : List Bytes) (ending : Ending) :
    (emit (σ := σ) keep lines (.stop ending)).written = (select keep lines).1.flatten := by
  unfold emit
  rw [Burst.written_emitAllOr]
  split <;> simp

theorem output_emit {p : Program} (chunks lines : List Bytes) (next : Burst p.State Ending) :
    p.output chunks (emit keep lines next) =
      (select keep lines).1.flatten ++
        if (select keep lines).2 then p.output chunks next else [] := by
  unfold emit
  rw [Program.output_emitAllOr]
  split <;> simp

/-- The lines of a stream are those that are complete after its first part
and those that the rest goes on to complete. -/
theorem lines_append (s t : Bytes) :
    Bytes.lines (s ++ t) =
      (cutLines newline s).1.map (dropMark carriageReturn) ++
        Bytes.lines ((cutLines newline s).2 ++ t) := by
  change linesOf newline carriageReturn (s ++ t) = _ ++ linesOf newline carriageReturn _
  simp only [linesOf]
  rw [cutLines_append, List.map_append, List.append_assoc]

theorem lines_of_notMem {rest : Bytes} (hrest : newline ∉ rest) :
    Bytes.lines rest = if rest.isEmpty then [] else [rest] := by
  change linesOf newline carriageReturn rest = _
  rw [linesOf, cutLines_of_notMem hrest]
  rfl

/-- However the stream is cut, what is written is selected from its lines. -/
theorem output_lineProgram (chunks : List Bytes) {rest : Bytes} (hrest : newline ∉ rest) :
    (lineProgram keep).output chunks (.ask rest) =
      (select keep (Bytes.lines (rest ++ chunks.flatten))).1.flatten := by
  induction chunks generalizing rest with
  | nil =>
      calc
        _ = (emit (σ := Empty) keep (if rest.isEmpty then [] else [rest])
              (.stop .returned)).written := rfl
        _ = _ := by
          rw [written_emit, List.flatten_nil, List.append_nil, lines_of_notMem hrest]
  | cons chunk chunks ih =>
      have hrest' := notMem_cutLines_snd newline (rest ++ chunk)
      calc
        _ = (lineProgram keep).output chunks (emit keep
              ((cutLines newline (rest ++ chunk)).1.map (dropMark carriageReturn))
              (.ask (cutLines newline (rest ++ chunk)).2)) := rfl
        _ = (select keep (Bytes.lines (rest ++ chunk ++ chunks.flatten))).1.flatten := by
          rw [output_emit, lines_append, select_append, ih hrest']
          split <;> simp
        _ = _ := by rw [List.flatten_cons, List.append_assoc]

theorem steady_lineProgram (keep : Text → Bool) : (lineProgram keep).Steady := by
  intro cs ds _ _ heq
  calc
    _ = (select keep (Bytes.lines ([] ++ cs.flatten))).1.flatten :=
      output_lineProgram cs List.not_mem_nil
    _ = (select keep (Bytes.lines ([] ++ ds.flatten))).1.flatten := by rw [heq]
    _ = _ := (output_lineProgram ds List.not_mem_nil).symm

/-- Whatever its patterns mean, the line filter is steady. -/
theorem steady_filterBy (patterns : Patterns) (args : List Text) :
    (filterBy patterns args).Steady := by
  unfold filterBy
  split
  · exact Program.steady_copy
  · dsimp only
    split
    · exact steady_lineProgram _
    · exact Program.steady_immediate _

theorem steady_filter (args : List Text) : (filter args).Steady :=
  steady_filterBy regularExpressions args

end Grep

end MenuLine
