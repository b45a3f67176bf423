import MenuLine.Proofs.Grep

/-!
# Filters that read all of their input

`Program.ThoroughFrom` says of a filter and a stream that the filter asks for
more until that stream ends, and that the way the stream is cut makes no
difference. Filters that work on all of their input at once are thorough with
every stream, and the line filter with every stream whose lines it can read.
-/

namespace MenuLine

namespace Burst

/-- The result of a burst that never asks for input, where everything that it
writes is accepted. -/
def result : Burst Empty ρ → ρ
  | stop result => result
  | write _ next => (next none).result

theorem outcome_widen_eq (b : Burst Empty ρ) : (b.widen (σ := σ)).outcome = .inr b.result := by
  induction b with
  | stop result => rfl
  | ask state => exact state.elim
  | write chunk next ih => exact ih none

end Burst

namespace Program

variable (p : Program)

/-- How a filter ends when it reads these chunks and then the end of the
stream. -/
def ending : List Bytes → Burst p.State Ending → Ending
  | [], b => match b.outcome with
    | .inl state => (p.finish state).result
    | .inr ending => ending
  | chunk :: chunks, b => match b.outcome with
    | .inl state => ending chunks (p.feed state chunk)
    | .inr ending => ending

/-- After each of these chunks the filter asks for more. -/
def ReadsOn : List Bytes → Burst p.State Ending → Prop
  | [], b => ∃ state, b.outcome = .inl state
  | chunk :: chunks, b => ∃ state, b.outcome = .inl state ∧ ReadsOn chunks (p.feed state chunk)

/-- The filter reads all of this stream from here on, and neither what it writes
nor how it ends depends on how the stream is cut. -/
structure ThoroughFrom (b : Burst p.State Ending) (stream : Bytes) : Prop where
  reads : ∀ chunks : List Bytes, [] ∉ chunks → chunks.flatten = stream → p.ReadsOn chunks b
  output : ∀ chunks : List Bytes, [] ∉ chunks → chunks.flatten = stream →
    p.output chunks b = p.output (inOne stream) b
  ending : ∀ chunks : List Bytes, [] ∉ chunks → chunks.flatten = stream →
    p.ending chunks b = p.ending (inOne stream) b

/-- The filter reads all of this stream. -/
def ReadsAll (stream : Bytes) : Prop := p.ThoroughFrom p.start stream

/-- Where the first filter of a chain is given this stream, each filter reads all
of its input. -/
def Thorough : List Program → Bytes → Prop
  | [], _ => True
  | p :: ps, stream => p.ReadsAll stream ∧ Thorough ps (p.transform stream)

/-- How the filters of a chain end, the first of which is given this stream. -/
def endings : List Program → Bytes → List Ending
  | [], _ => []
  | p :: ps, stream => p.ending (inOne stream) p.start :: endings ps (p.transform stream)

@[simp] theorem ending_write (chunks : List Bytes) (chunk : Bytes)
    (next : Option IoError → Burst p.State Ending) :
    p.ending chunks (.write chunk next) = p.ending chunks (next none) := by
  cases chunks <;> rfl

@[simp] theorem ending_ask_cons (state : p.State) (chunk : Bytes) (chunks : List Bytes) :
    p.ending (chunk :: chunks) (.ask state) = p.ending chunks (p.feed state chunk) := rfl

variable {p} {b : Burst p.State Ending} {stream : Bytes}

theorem ending_of_outcome {e : Ending} (h : b.outcome = .inr e) (chunks : List Bytes) :
    p.ending chunks b = e := by
  cases chunks <;> simp [Program.ending, h]

theorem readsOn_write {chunk : Bytes} {next : Option IoError → Burst p.State Ending}
    (chunks : List Bytes) :
    p.ReadsOn chunks (.write chunk next) ↔ p.ReadsOn chunks (next none) := by
  cases chunks <;> rfl

theorem ThoroughFrom.exists_state (h : p.ThoroughFrom b stream) :
    ∃ state, b.outcome = .inl state := by
  have hreads := h.reads (inOne stream) (nil_notMem_inOne _) (flatten_inOne _)
  cases hone : inOne stream with
  | nil =>
      rw [hone] at hreads
      exact hreads
  | cons chunk chunks =>
      rw [hone] at hreads
      obtain ⟨state, hstate, -⟩ := hreads
      exact ⟨state, hstate⟩

theorem ThoroughFrom.write {chunk : Bytes} {next : Option IoError → Burst p.State Ending}
    (h : p.ThoroughFrom (.write chunk next) stream) : p.ThoroughFrom (next none) stream where
  reads chunks hne hflat := (readsOn_write chunks).1 (h.reads chunks hne hflat)
  output chunks hne hflat := by simpa using h.output chunks hne hflat
  ending chunks hne hflat := by simpa using h.ending chunks hne hflat

variable {state : p.State} {found rest : Bytes}

theorem nil_notMem_cons (hfound : found ≠ []) {chunks : List Bytes} (h : [] ∉ chunks) :
    [] ∉ found :: chunks := by
  simp [h, Ne.symm hfound]

theorem ThoroughFrom.output_feed (h : p.ThoroughFrom (.ask state) (found ++ rest))
    (hfound : found ≠ []) {chunks : List Bytes} (hne : [] ∉ chunks)
    (hflat : chunks.flatten = rest) :
    p.output chunks (p.feed state found) = p.output (inOne (found ++ rest)) (.ask state) := by
  rw [← output_ask_cons]
  exact h.output _ (nil_notMem_cons hfound hne) (by simp [hflat])

theorem ThoroughFrom.ending_feed (h : p.ThoroughFrom (.ask state) (found ++ rest))
    (hfound : found ≠ []) {chunks : List Bytes} (hne : [] ∉ chunks)
    (hflat : chunks.flatten = rest) :
    p.ending chunks (p.feed state found) = p.ending (inOne (found ++ rest)) (.ask state) := by
  rw [← ending_ask_cons]
  exact h.ending _ (nil_notMem_cons hfound hne) (by simp [hflat])

theorem ThoroughFrom.feed (h : p.ThoroughFrom (.ask state) (found ++ rest)) (hfound : found ≠ []) :
    p.ThoroughFrom (p.feed state found) rest where
  reads chunks hne hflat := by
    obtain ⟨state', hstate, hreads⟩ :=
      h.reads (found :: chunks) (nil_notMem_cons hfound hne) (by simp [hflat])
    cases hstate
    exact hreads
  output chunks hne hflat := by
    rw [h.output_feed hfound hne hflat,
      h.output_feed hfound (nil_notMem_inOne _) (flatten_inOne _)]
  ending chunks hne hflat := by
    rw [h.ending_feed hfound hne hflat,
      h.ending_feed hfound (nil_notMem_inOne _) (flatten_inOne _)]

/-! ## Kinds of filters -/

theorem readsOn_whole (work : Bytes → Burst Empty Ending) (chunks : List Bytes) (c : Collector) :
    (whole work).ReadsOn chunks (.ask c) := by
  induction chunks generalizing c with
  | nil => exact ⟨c, rfl⟩
  | cons chunk chunks ih => exact ⟨c, rfl, ih (c.add chunk)⟩

theorem ending_whole (work : Bytes → Burst Empty Ending) (chunks : List Bytes) (c : Collector) :
    (whole work).ending chunks (.ask c) = (work (c.bytes ++ chunks.flatten)).result := by
  induction chunks generalizing c with
  | nil =>
      rw [List.flatten_nil, List.append_nil]
      rfl
  | cons chunk chunks ih =>
      calc
        _ = (work ((c.add chunk).bytes ++ chunks.flatten)).result := ih (c.add chunk)
        _ = _ := by rw [Collector.bytes_add, List.flatten_cons, List.append_assoc]

theorem readsAll_whole (work : Bytes → Burst Empty Ending) (stream : Bytes) :
    (whole work).ReadsAll stream where
  reads chunks _ _ := readsOn_whole work chunks .empty
  output chunks hne hflat := by
    subst hflat
    exact (steady_whole work).output_eq hne
  ending chunks _ hflat := by
    have hcut (cs : List Bytes) : (whole work).ending cs (whole work).start =
        (work (Collector.empty.bytes ++ cs.flatten)).result := ending_whole work cs .empty
    rw [hcut, hcut, hflat, flatten_inOne]

theorem readsOn_copy (chunks : List Bytes) : copy.ReadsOn chunks copy.start := by
  induction chunks with
  | nil => exact ⟨(), rfl⟩
  | cons chunk chunks ih => exact ⟨(), rfl, (readsOn_write chunks).2 ih⟩

theorem ending_copy (chunks : List Bytes) : copy.ending chunks copy.start = .returned := by
  induction chunks with
  | nil => rfl
  | cons chunk chunks ih => exact (copy.ending_write chunks chunk _).trans ih

theorem readsAll_copy (stream : Bytes) : copy.ReadsAll stream where
  reads chunks _ _ := readsOn_copy chunks
  output chunks hne hflat := by
    subst hflat
    exact steady_copy.output_eq hne
  ending chunks _ _ := by rw [ending_copy, ending_copy]

end Program

namespace Grep

variable {keep : Text → Bool}

theorem select_snd (lines : List Bytes) :
    (select keep lines).2 = lines.all fun line => (Text.ofBytes? line).isSome := by
  induction lines with
  | nil => rfl
  | cons line lines ih =>
      cases ht : Text.ofBytes? line with
      | none => simp [select, ht]
      | some text => simp [select, ht, ih]

theorem ending_emit {p : Program} (chunks lines : List Bytes) (next : Burst p.State Ending) :
    p.ending chunks (emit keep lines next) =
      if (select keep lines).2 then p.ending chunks next else .failed .notUtf8 := by
  have hemit (written : List Bytes) (b : Burst p.State Ending) :
      p.ending chunks (.emitAllOr .failed written b) = p.ending chunks b := by
    cases chunks <;> simp [Program.ending, Burst.outcome_emitAllOr]
  unfold emit
  rw [hemit]
  split
  · rfl
  · exact Program.ending_of_outcome rfl chunks

theorem readsOn_emit {p : Program} {chunks lines : List Bytes} {next : Burst p.State Ending}
    (hvalid : (select keep lines).2 = true) (h : p.ReadsOn chunks next) :
    p.ReadsOn chunks (emit keep lines next) := by
  have hemit (written : List Bytes) : p.ReadsOn chunks (.emitAllOr .failed written next) := by
    induction written with
    | nil => exact h
    | cons chunk written ih => exact (Program.readsOn_write chunks).2 ih
  simp only [emit, hvalid, if_true]
  exact hemit _

theorem result_emit (lines : List Bytes) (ending : Ending) :
    (emit keep lines (.stop ending)).result =
      if (select keep lines).2 then ending else .failed .notUtf8 := by
  have hemit (written : List Bytes) (b : Burst Empty Ending) :
      (Burst.emitAllOr .failed written b).result = b.result := by
    induction written with
    | nil => rfl
    | cons chunk written ih => exact ih
  unfold emit
  rw [hemit]
  split <;> rfl

/-- However the stream is cut, the filter fails if a line of it cannot be read. -/
theorem ending_lineProgram (chunks : List Bytes) {rest : Bytes} (hrest : newline ∉ rest) :
    (lineProgram keep).ending chunks (.ask rest) =
      if (select keep (Bytes.lines (rest ++ chunks.flatten))).2 then .returned
      else .failed .notUtf8 := by
  induction chunks generalizing rest with
  | nil =>
      calc
        _ = (emit (σ := Empty) keep (if rest.isEmpty then [] else [rest])
              (.stop .returned)).result := rfl
        _ = _ := by
          rw [result_emit, List.flatten_nil, List.append_nil, lines_of_notMem hrest]
  | cons chunk chunks ih =>
      have hrest' := notMem_cutLines_snd newline (rest ++ chunk)
      calc
        _ = (lineProgram keep).ending chunks (emit keep
              ((cutLines newline (rest ++ chunk)).1.map (dropMark carriageReturn))
              (.ask (cutLines newline (rest ++ chunk)).2)) := rfl
        _ = if (select keep (Bytes.lines (rest ++ chunk ++ chunks.flatten))).2 then .returned
            else .failed .notUtf8 := by
          rw [ending_emit, lines_append, select_append, ih hrest']
          split <;> simp_all
        _ = _ := by rw [List.flatten_cons, List.append_assoc]

theorem readsOn_lineProgram (chunks : List Bytes) {rest : Bytes} (hrest : newline ∉ rest)
    (hvalid : (select keep (Bytes.lines (rest ++ chunks.flatten))).2 = true) :
    (lineProgram keep).ReadsOn chunks (.ask rest) := by
  induction chunks generalizing rest with
  | nil => exact ⟨rest, rfl⟩
  | cons chunk chunks ih =>
      have hrest' := notMem_cutLines_snd newline (rest ++ chunk)
      rw [List.flatten_cons, ← List.append_assoc, lines_append, select_append] at hvalid
      split at hvalid
      · next hcomplete => exact ⟨rest, rfl, readsOn_emit hcomplete (ih hrest' hvalid)⟩
      · next hcomplete => exact absurd hvalid hcomplete

/-- The line filter reads all of a stream whose lines are UTF-8. -/
theorem readsAll_lineProgram {stream : Bytes}
    (h : ∀ line ∈ Bytes.lines stream, (Text.ofBytes? line).isSome = true) :
    (lineProgram keep).ReadsAll stream where
  reads chunks _ hflat := by
    apply readsOn_lineProgram chunks List.not_mem_nil
    rw [select_snd, List.nil_append, hflat]
    exact List.all_eq_true.2 h
  output chunks hne hflat := by
    subst hflat
    exact (steady_lineProgram keep).output_eq hne
  ending chunks _ hflat := by
    have hcut (cs : List Bytes) : (lineProgram keep).ending cs (lineProgram keep).start =
        if (select keep (Bytes.lines ([] ++ cs.flatten))).2 then .returned
        else .failed .notUtf8 :=
      ending_lineProgram cs List.not_mem_nil
    rw [hcut, hcut, hflat, Program.flatten_inOne]

/-- So does the filter that comes with the program, unless its pattern is
refused. -/
theorem readsAll_filter {args : List Text}
    (hargs : args = [] ∨ ∃ e, Pattern.compile (Options.ofArgs args).caseInsensitive
      (Options.ofArgs args).pattern = .ok e)
    {stream : Bytes} (h : ∀ line ∈ Bytes.lines stream, (Text.ofBytes? line).isSome = true) :
    (filter args).ReadsAll stream := by
  unfold filter filterBy
  split
  · exact Program.readsAll_copy stream
  · next hsome =>
      obtain ⟨e, he⟩ := hargs.resolve_left (by simpa using hsome)
      simp only [regularExpressions, he]
      exact readsAll_lineProgram h

end Grep

end MenuLine
