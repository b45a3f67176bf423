import MenuLine.Proofs.Outcome
import MenuLine.Proofs.Simulation

/-!
# Where the output goes

A pipeline that runs into a sink and one that runs into a file do the same, and so
does one that could not make its file and falls back on the sink. A collector
stands for all three destinations. The main statement is
`Pipeline.execute_routing`.
-/

namespace MenuLine

/-! ## Files -/

/-- What is wrong with a path. -/
inductive IoError.OfPath : IoError → Prop where
  | path (fault : PathFault) : OfPath (.path fault)
  | nulInPath : OfPath .nulInPath

theorem IoError.OfPath.newline_notMem {e : IoError} (h : e.OfPath) : '\n' ∉ e.message := by
  cases h with
  | path fault => cases fault <;> decide
  | nulInPath => decide

namespace FileTree

variable {files made : FileTree} {path name : Text} {place : Location} {e : IoError}

theorem get?_of_lookup {entry : FileEntry} {found : Location}
    (h : files.lookup place name = .ok (found, entry)) : files.get? found = some entry := by
  unfold lookup at h
  split at h
  · cases h
  · split at h
    · cases h
    · next hget =>
        cases h
        exact hget

theorem ofPath_of_lookup (h : files.lookup place name = .error e) : e.OfPath := by
  unfold lookup at h
  split at h
  · cases h
    exact .path _
  · split at h
    · cases h
      exact .path _
    · cases h

theorem ofPath_of_descend {names : List Text} (h : files.descend place names = .error e) :
    e.OfPath := by
  induction names generalizing place with
  | nil => cases h
  | cons name names ih =>
      rw [descend] at h
      split at h
      · next hlookup =>
          cases h
          exact ofPath_of_lookup hlookup
      · cases h
        exact .path _
      · exact ih h

theorem ofPath_of_locate (h : files.locate path = .error e) : e.OfPath := by
  unfold locate at h
  split at h
  · cases h
    exact .nulInPath
  · split at h
    · cases h
      exact .path _
    · split at h
      · cases h
        exact .path _
      · cases hdescend : files.descend (if Path.isAbsolute path then [] else files.current)
          (Path.steps path).dropLast with
        | error e' =>
            simp only [hdescend, Except.map] at h
            cases h
            exact ofPath_of_descend hdescend
        | ok place =>
            simp only [hdescend, Except.map] at h
            cases h

theorem ofPath_of_place (h : files.place path = .error e) : e.OfPath := by
  unfold FileTree.place at h
  split at h
  · next hlocate =>
      cases h
      exact ofPath_of_locate hlocate
  · cases h
    exact .path _
  · split at h
    · cases h
      exact .path _
    · split at h
      · cases h
        exact .path _
      · cases h
      · cases h
      · next hlookup =>
          cases h
          exact ofPath_of_lookup hlookup

/-- A file has a name. -/
theorem place_ne_nil (h : files.place path = .ok place) : place ≠ [] := by
  unfold FileTree.place at h
  split at h
  · cases h
  · cases h
  · split at h
    · cases h
    · split at h
      · cases h
      · next hlookup =>
          cases h
          rintro rfl
          cases (get?_root files).symm.trans (get?_of_lookup hlookup)
      · cases h
        simp
      · cases h

theorem create_eq_ok (h : files.create path = .ok (place, made)) :
    place ≠ [] ∧ made = files.put place (.file []) := by
  cases hplace : files.place path with
  | error e =>
      simp only [create, hplace, Except.map] at h
      cases h
  | ok found =>
      simp only [create, hplace, Except.map] at h
      cases h
      exact ⟨place_ne_nil hplace, rfl⟩

theorem ofPath_of_create (h : files.create path = .error e) : e.OfPath := by
  cases hplace : files.place path with
  | error e' =>
      simp only [create, hplace, Except.map] at h
      cases h
      exact ofPath_of_place hplace
  | ok found =>
      simp only [create, hplace, Except.map] at h
      cases h

end FileTree

/-- A sink that accepts all writes gets what a collector gets. -/
theorem Sink.Accepting.simulates [Sink τ] {seen : τ → Bytes} (h : Sink.Accepting seen) (sink : τ) :
    Sink.Simulates (Sink.Flushes τ) fun (s : τ) (c : Collector) =>
      seen s = seen sink ++ c.bytes where
  write hst chunk := by
    refine ⟨h.write_fst _ chunk, ?_⟩
    rw [h.seen_write, hst, Collector.write_eq, Collector.bytes_add, List.append_assoc]
  flush hst := ⟨fun hflush => hflush _, (h.seen_flush _).trans hst⟩

theorem Sink.seen_append_empty (seen : τ → Bytes) (sink : τ) :
    seen sink = seen sink ++ Collector.empty.bytes := by
  rw [Collector.bytes_empty, List.append_nil]

namespace Pipeline

variable {α τ : Type} {seen : τ → Bytes} {files made : FileTree} {sink told last : τ}
  {bytes : Bytes} {path : Text} {place : Location} {cause : IoError}

/-- What the sink gets if a file cannot be made. -/
def notice (cause : IoError) : Bytes :=
  Text.bytes ("error writing: ".toList ++ cause.message ++ ['\n'])

/-- These bytes are in the sink if no output is named. A file that can be made has
exactly these bytes and the sink gets nothing; if it cannot be made the sink gets
one line that says why, and then the bytes. -/
def Delivered (seen : τ → Bytes) (files : FileTree) (sink : τ) (bytes : Bytes)
    (e : Execution α τ) : Option Text → Prop
  | none => seen e.sink = seen sink ++ bytes ∧ e.files = files
  | some path => match files.create path with
    | .ok (place, _) => e.sink = sink ∧ e.files.get? place = some (.file bytes) ∧
        ∀ other, other ≠ place → e.files.get? other = files.get? other
    | .error cause => '\n' ∉ cause.message ∧
        seen e.sink = seen sink ++ notice cause ++ bytes ∧ e.files = files

theorem delivered_of_created (hcreate : files.create path = .ok (place, made))
    (failure : Option PipelineError) (value : Option α) :
    Delivered seen files sink bytes ⟨failure, value, sink, made.put place (.file bytes)⟩
      (some path) := by
  obtain ⟨hplace, rfl⟩ := FileTree.create_eq_ok hcreate
  simp only [Delivered, hcreate]
  refine ⟨trivial, FileTree.get?_put_self hplace _, fun other hother => ?_⟩
  exact (FileTree.get?_put_of_ne hother _).trans (FileTree.get?_put_of_ne hother _)

theorem delivered_of_refused (hcreate : files.create path = .error cause)
    (htold : seen told = seen sink ++ notice cause) (hlast : seen last = seen told ++ bytes)
    (failure : Option PipelineError) (value : Option α) :
    Delivered seen files sink bytes ⟨failure, value, last, files⟩ (some path) := by
  simp only [Delivered, hcreate]
  refine ⟨(FileTree.ofPath_of_create hcreate).newline_notMem, ?_, trivial⟩
  rw [hlast, htold]

variable [Sink τ]

/-- What an execution comes to with an output. The failure is this one if no flush
of the sink fails. -/
structure ComesTo (seen : τ → Bytes) (files : FileTree) (sink : τ) (output : Option Text)
    (failure : Option PipelineError) (value : α) (bytes : Bytes) (e : Execution α τ) : Prop where
  failure : Sink.Flushes τ → e.failure = failure
  value : e.value = some value
  delivered : Delivered seen files sink bytes e output

variable {filters : Table Filter} {chain : List FilterCall} {ps : List Program} {head : Head α}
  {output : Option Text} {failure : Option PipelineError} {value : α}

/-- A sink that accepts all writes is told why a file could not be made. -/
theorem exists_told (hseen : Sink.Accepting seen) (sink : τ) (cause : IoError) :
    ∃ told, Sink.writeLine sink ("error writing: ".toList ++ cause.message) = (none, told) ∧
      seen told = seen sink ++ notice cause := by
  refine ⟨_, Prod.ext (hseen.write_fst _ _) rfl, ?_⟩
  exact hseen.seen_write sink (notice cause)

/-- What comes of a pipeline could have come of it with a collector as its target. -/
theorem Executes.exists_collected (hseen : Sink.Accepting seen)
    (hresolve : resolve filters chain = .ok ps) {ends : Option Job.Ends} {e : Execution α τ}
    (h : Executes filters chain output files sink (fun _ => head) ends e) :
    ∃ ends' failure value written,
      Job.Returns (chain.map FilterCall.name) ps Collector.empty head ends'
        (failure, value, written) ∧
      ComesTo seen files sink output failure value written.bytes e := by
  cases h with
  | refused hresolve' => cases hresolve'.symm.trans hresolve
  | intoSink hresolve' houtput h =>
      cases hresolve'.symm.trans hresolve
      subst houtput
      obtain ⟨ends', failure, written, h', hfailure, hlast⟩ :=
        h.simulates (hseen.simulates sink) (Sink.seen_append_empty seen sink)
      exact ⟨_, _, _, _, h', hfailure, rfl, hlast, rfl⟩
  | intoFile hresolve' houtput hcreate h =>
      cases hresolve'.symm.trans hresolve
      subst houtput
      exact ⟨_, _, _, _, h, fun _ => rfl, rfl, delivered_of_created hcreate _ _⟩
  | unreported hresolve' houtput hcreate hreport =>
      obtain ⟨told, htold, -⟩ := exists_told hseen sink _
      cases hreport.symm.trans htold
  | fallback hresolve' houtput hcreate hreport h =>
      cases hresolve'.symm.trans hresolve
      subst houtput
      obtain ⟨told, htold, hnotice⟩ := exists_told hseen sink _
      cases hreport.symm.trans htold
      obtain ⟨ends', failure, written, h', hfailure, hlast⟩ :=
        h.simulates (hseen.simulates _) (Sink.seen_append_empty seen _)
      exact ⟨_, _, _, _, h', hfailure, rfl, delivered_of_refused hcreate hnotice hlast _ _⟩

/-- What can come of a pipeline with a collector as its target can come of it with
every output. -/
theorem exists_executes_of_collected (hseen : Sink.Accepting seen)
    (hresolve : resolve filters chain = .ok ps) (files : FileTree) (sink : τ)
    (output : Option Text) {ends : Job.Ends} {written : Collector}
    (h : Job.Returns (chain.map FilterCall.name) ps Collector.empty head ends
      (failure, value, written)) :
    ∃ ends' e, Executes filters chain output files sink (fun _ => head) ends' e ∧
      ComesTo seen files sink output failure value written.bytes e := by
  cases output with
  | none =>
      obtain ⟨ends', failure', last, h', hfailure, hlast⟩ :=
        h.simulates (hseen.simulates sink).symm (Sink.seen_append_empty seen sink)
      exact ⟨_, _, .intoSink hresolve rfl h', fun hflush => (hfailure hflush).symm, rfl, hlast, rfl⟩
  | some path =>
      cases hcreate : files.create path with
      | ok created =>
          exact ⟨_, _, .intoFile hresolve rfl hcreate h, fun _ => rfl, rfl,
            delivered_of_created hcreate _ _⟩
      | error cause =>
          obtain ⟨told, htold, hnotice⟩ := exists_told hseen sink cause
          obtain ⟨ends', failure', last, h', hfailure, hlast⟩ :=
            h.simulates (hseen.simulates told).symm (Sink.seen_append_empty seen told)
          exact ⟨_, _, .fallback hresolve rfl hcreate htold h',
            fun hflush => (hfailure hflush).symm, rfl,
            delivered_of_refused hcreate hnotice hlast _ _⟩

/-- `execute` comes to what `run` comes to on a collector. -/
theorem comesTo_execute (hseen : Sink.Accepting seen) (hresolve : resolve filters chain = .ok ps)
    (files : FileTree) (sink : τ) (head : Head α) (output : Option Text) :
    let plain := run (chain.map FilterCall.name) ps Collector.empty head
    ComesTo seen files sink output plain.1 plain.2.1 plain.2.2.bytes
      (execute filters chain output files sink fun _ => head) := by
  have hrun (target : τ) := run_simulates (hseen.simulates target)
    (Sink.seen_append_empty seen target) (chain.map FilterCall.name) ps head
  cases output with
  | none =>
      obtain ⟨hfailure, hvalue, hlast⟩ := hrun sink
      simp only [execute, hresolve]
      exact ⟨hfailure, congrArg some hvalue, hlast, rfl⟩
  | some path =>
      cases hcreate : files.create path with
      | ok created =>
          simp only [execute, hresolve, hcreate]
          exact ⟨fun _ => rfl, rfl, delivered_of_created hcreate _ _⟩
      | error cause =>
          obtain ⟨told, htold, hnotice⟩ := exists_told hseen sink cause
          obtain ⟨hfailure, hvalue, hlast⟩ := hrun told
          simp only [execute, hresolve, hcreate, htold]
          exact ⟨hfailure, congrArg some hvalue, delivered_of_refused hcreate hnotice hlast _ _⟩

/-- The output goes elsewhere, and nothing else is different. Whatever the output
is, `execute` comes to the same value, the same bytes and, if no flush of the sink
fails, to the same failure. So it is in every order of the steps: what can come of
the pipeline with one output can come of it with every other, and if the filters
read all of their input there is but one thing that can. -/
theorem execute_routing (hseen : Sink.Accepting seen)
    (hknown : ∀ call ∈ chain, filters.find? call.name ≠ none) (files : FileTree) (sink : τ)
    (head : Head α) :
    (∃ failure value bytes, ∀ output,
      ComesTo seen files sink output failure value bytes
        (execute filters chain output files sink fun _ => head)) ∧
    (∀ output ends e, Executes filters chain output files sink (fun _ => head) ends e →
      ∃ failure value bytes, ComesTo seen files sink output failure value bytes e ∧
        ∀ output', ∃ ends' e',
          Executes filters chain output' files sink (fun _ => head) ends' e' ∧
            ComesTo seen files sink output' failure value bytes e') ∧
    ∀ ps, resolve filters chain = .ok ps → Program.Thorough ps head.written →
      ∃ failure value bytes, ∀ output ends e,
        Executes filters chain output files sink (fun _ => head) ends e →
          ComesTo seen files sink output failure value bytes e := by
  obtain ⟨ps, hresolve⟩ := exists_resolve hknown
  refine ⟨⟨_, _, _, comesTo_execute hseen hresolve files sink head⟩, ?_, ?_⟩
  · intro output ends e h
    obtain ⟨ends', failure, value, written, hreturns, he⟩ := h.exists_collected hseen hresolve
    refine ⟨failure, value, written.bytes, he, fun output' => ?_⟩
    exact exists_executes_of_collected hseen hresolve files sink output' hreturns
  · intro qs hqs hthorough
    refine ⟨resultOf head.result.failure (chain.map FilterCall.name)
      (Program.endings qs head.written), head.result.value, Program.compose qs head.written,
      fun output ends e h => ?_⟩
    obtain ⟨ends', failure, value, written, hreturns, hfailure, hvalue, hdelivered⟩ :=
      h.exists_collected hseen hqs
    obtain ⟨rfl, hwritten, hresult⟩ :=
      hreturns.eq_of_thorough Collector.accepting hthorough (length_of_resolve hqs)
    obtain rfl := hresult fun _ => rfl
    have hbytes : written.bytes = Program.compose qs head.written := hwritten
    exact ⟨hfailure, hvalue, hbytes ▸ hdelivered⟩

/-- The line filter and one that turns all of its input around, into the sink,
into a file and into a folder that is not there. -/
theorem execute_routing_two_filters :
    let turn : Program := .whole fun all => .emitOr .failed all.reverse (.stop .returned)
    let filters : Table Filter := ⟨[("grep".toList, Grep.filter), ("turn".toList, fun _ => turn)]⟩
    let args := ["-v".toList, "b".toList]
    let chain : List FilterCall := [⟨"grep".toList, args⟩, ⟨"turn".toList, []⟩]
    let ps := [Grep.filter args, turn]
    let head : Head Unit :=
      .emit (Text.bytes "ab\na".toList) (.emit (Text.bytes "c\n".toList) (.stop ⟨(), none⟩))
    let files : FileTree := ⟨[], []⟩
    (∀ call ∈ chain, filters.find? call.name ≠ none) ∧ resolve filters chain = .ok ps ∧
      Program.Thorough ps head.written ∧ Sink.Flushes Collector ∧
      (∃ made, files.create "f".toList = .ok (["f".toList], made)) ∧
      files.create "no/f".toList = .error (.path .notFound) ∧
      ∀ output ends e, Executes filters chain output files Collector.empty (fun _ => head) ends e →
        ComesTo Collector.bytes files Collector.empty output none ()
          (Text.bytes "\nca".toList) e := by
  intro turn filters args chain ps head files
  have hknown : ∀ call ∈ chain, filters.find? call.name ≠ none := by decide
  have hresolve : resolve filters chain = .ok ps := rfl
  have hthorough : Program.Thorough ps head.written := by
    refine ⟨Grep.readsAll_filter (.inr ⟨_, rfl⟩) ?_, Program.readsAll_whole _ _, trivial⟩
    decide +kernel
  have hflush : Sink.Flushes Collector := fun _ => rfl
  refine ⟨hknown, hresolve, hthorough, hflush, ⟨_, rfl⟩, by decide +kernel, ?_⟩
  obtain ⟨-, -, hevery⟩ :=
    execute_routing Collector.accepting hknown files Collector.empty head
  obtain ⟨failure, value, bytes, hall⟩ := hevery ps hresolve hthorough
  obtain ⟨ends, hexecutes⟩ := exists_executes filters chain none files Collector.empty fun _ => head
  obtain ⟨hfailure, -, hbytes, -⟩ := hall none ends _ hexecutes
  have hrun : (execute filters chain none files Collector.empty fun _ => head).failure = none ∧
      (execute filters chain none files Collector.empty fun _ => head).sink.bytes =
        Text.bytes "\nca".toList := by
    decide +kernel
  obtain rfl : none = failure := hrun.1.symm.trans (hfailure hflush)
  obtain rfl : Text.bytes "\nca".toList = bytes := hrun.2.symm.trans hbytes
  exact hall

end Pipeline

/-- A collector that cannot be flushed. -/
structure Unflushed where
  collector : Collector

namespace Unflushed

instance : Sink Unflushed where
  write s chunk := (none, ⟨s.collector.add chunk⟩)
  flush s := (some (.other "flush failed".toList), s)

theorem accepting : Sink.Accepting fun s : Unflushed => s.collector.bytes where
  write_fst _ _ := rfl
  seen_write s := Collector.bytes_add s.collector
  seen_flush _ := rfl

end Unflushed

namespace Pipeline

/-- A sink may accept all writes and still fail to flush. Then a pipeline fails
that runs into it, and one that runs into a file does not. -/
theorem execute_into_unflushed_sink :
    let head : FileTree → Head Unit :=
      fun _ => .emit (Text.bytes "x".toList) (.stop ⟨(), none⟩)
    let run (output : Option Text) : Execution Unit Unflushed :=
      execute .empty [] output ⟨[], []⟩ ⟨.empty⟩ head
    Sink.Accepting (fun s : Unflushed => s.collector.bytes) ∧
      (run none).failure = some (.handler (.other "flush failed".toList)) ∧
      (run none).sink.collector.bytes = Text.bytes "x".toList ∧
      (run (some "f".toList)).failure = none ∧
      (run (some "f".toList)).files.get? ["f".toList] = some (.file (Text.bytes "x".toList)) :=
  ⟨Unflushed.accepting, rfl, rfl, rfl, rfl⟩

end Pipeline

end MenuLine
