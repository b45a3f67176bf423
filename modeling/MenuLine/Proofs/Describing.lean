import Mathlib
import MenuLine.Description
import MenuLine.Proofs.Grammar
import MenuLine.Proofs.Separation
import MenuLine.Proofs.Spelling
import MenuLine.Proofs.Weight
import MenuLine.Statement.DescriptionGrammar

/-!
# Reading the grammar of descriptions

A description is accepted if its tokens follow the grammar, and then it says
what the grammar does: `Description.parse_iff`. Nothing else is accepted, since
a description as a whole weighs one and a second statement, a filter or an
output file would weigh more.
-/

namespace MenuLine

/-! ## The slots of placeholders -/

namespace Grammar

theorem number_eq_numeral (digits : Text) : Reading.number digits = numeral digits := by
  induction digits using List.reverseRecOn with
  | nil => rfl
  | append_singleton digits c ih =>
      have hnumber :
          Reading.number (digits ++ [c]) = 10 * Reading.number digits + digitValue c := by
        simp [Reading.number, digitValue]
      have hnumeral : numeral (digits ++ [c]) = digitValue c + 10 * numeral digits := by
        simp [numeral, Nat.ofDigits_cons]
      rw [hnumber, hnumeral, ih, Nat.add_comm]

theorem not_isDigit_star {t : Text} (h : ∀ c ∈ t, c.isDigit = true) : t ≠ ['*'] := by
  rintro rfl
  exact absurd (h '*' List.mem_cons_self) (by decide)

theorem slotOf_eq_ok_iff {t : Text} (h : t.IsSlot) {slot : Slot} :
    Reading.slotOf t = .ok slot ↔ Names t slot := by
  rcases h with rfl | ⟨hne, hdigits⟩
  · constructor
    · intro h
      cases h
      exact .wildcard
    · intro h
      cases h with
      | wildcard => rfl
      | numbered _ hdigits _ => exact absurd rfl (not_isDigit_star hdigits)
  · have hslot : Reading.slotOf t = if numeral t < UInt32.size then .ok (.numbered (numeral t))
        else .error (.invalidPlaceholderIndex t) := by
      rw [Reading.slotOf, if_neg (not_isDigit_star hdigits), number_eq_numeral]
    rw [hslot]
    constructor
    · intro h
      split at h
      · next hsize =>
          cases h
          exact .numbered hne hdigits hsize
      · cases h
    · intro h
      cases h with
      | wildcard => exact absurd rfl (not_isDigit_star hdigits)
      | numbered _ _ hsize => rw [if_pos hsize]

theorem hasSlot_eq_false_iff {s : Statement} {slot : Slot} :
    s.hasSlot slot = false ↔ slot ∉ s.segments.filterMap Segment.slot? := by
  simp [Statement.hasSlot]

theorem distinct_concat {ss : List Segment} {slot : Slot} {completion : Option Text} :
    Distinct (ss ++ [.placeholder slot completion]) ↔
      Distinct ss ∧ slot ∉ ss.filterMap Segment.slot? := by
  have hslots : (ss ++ [Segment.placeholder slot completion]).filterMap Segment.slot? =
      ss.filterMap Segment.slot? ++ [slot] := by
    rw [List.filterMap_append]
    rfl
  rw [Distinct, Distinct, hslots, List.nodup_append_comm, List.singleton_append, List.nodup_cons,
    and_comm]

theorem distinct_concat_literal {ss : List Segment} {w : Text} :
    Distinct (ss ++ [.literal w]) ↔ Distinct ss := by
  have hslots : (ss ++ [Segment.literal w]).filterMap Segment.slot? =
      ss.filterMap Segment.slot? := by
    rw [List.filterMap_append]
    exact List.append_nil _
  rw [Distinct, Distinct, hslots]

theorem distinct_append_left {ss us : List Segment} (h : Distinct (ss ++ us)) : Distinct ss := by
  rw [Distinct, List.filterMap_append] at h
  exact (List.nodup_append.1 h).1

end Grammar

namespace Grammar

open Reading

/-! ## What is derived is read -/

/-- Unless the name of a completer follows, a placeholder has none. -/
theorem read_completion {c : List Statement} {s : Statement} {slot : Slot} {ts : List Token}
    (hts : ∀ t ∈ ts.head?, t.kind ≠ .completionType) :
    Reading.read ⟨c, s, .completion slot⟩ ts =
      (addPlaceholder ⟨c, s, .completion slot⟩ slot none).bind fun r => r.read ts := by
  cases ts with
  | nil =>
      have hnil : Reading.read ⟨c, s, .completion slot⟩ [] =
          finish ⟨c, s, .completion slot⟩ := rfl
      rw [hnil, finish]
      dsimp only
      cases hadd : addPlaceholder ⟨c, s, .completion slot⟩ slot none with
      | error e => rfl
      | ok r =>
          obtain ⟨-, rfl⟩ := addPlaceholder_eq_ok hadd
          rfl
  | cons t ts =>
      have ht : t.kind ≠ .completionType := hts t rfl
      have hstep : step ⟨c, s, .completion slot⟩ t =
          (addPlaceholder ⟨c, s, .completion slot⟩ slot none).bind fun r => r.stepWords t := by
        simp only [step, if_neg ht]
      rw [Reading.read, steps_cons, hstep]
      cases hadd : addPlaceholder ⟨c, s, .completion slot⟩ slot none with
      | error e => rfl
      | ok r =>
          obtain ⟨-, rfl⟩ := addPlaceholder_eq_ok hadd
          rfl

theorem addPlaceholder_of_distinct {c : List Statement} {s : Statement} {e : Expecting}
    {slot : Slot} {completion : Option Text}
    (h : Distinct (s.segments ++ [.placeholder slot completion])) :
    addPlaceholder ⟨c, s, e⟩ slot completion =
      .ok ⟨c, { s with segments := s.segments ++ [.placeholder slot completion] }, .words⟩ := by
  have hslot : s.hasSlot slot = false := hasSlot_eq_false_iff.2 (distinct_concat.1 h).2
  rw [addPlaceholder, if_neg (by simp [hslot])]
  rfl

theorem step_placeholder {c : List Statement} {s : Statement} {t : Token} {slot : Slot}
    (hkind : t.kind = .placeholder) (hslot : slotOf t.text = .ok slot) :
    step ⟨c, s, .words⟩ t = .ok ⟨c, s, .completion slot⟩ := by
  obtain ⟨kind, text⟩ := t
  cases hkind
  simp only [step, stepWords, hslot]
  rfl

theorem step_completionType {c : List Statement} {s : Statement} {t : Token} {slot : Slot}
    (hkind : t.kind = .completionType) :
    step ⟨c, s, .completion slot⟩ t =
      addPlaceholder ⟨c, s, .completion slot⟩ slot (completer? t.text) := by
  simp only [step, if_pos hkind]
  rfl

theorem Names.isSlot {text : Text} {slot : Slot} (h : Names text slot) : text.IsSlot := by
  cases h with
  | wildcard => exact .inl rfl
  | numbered hne hdigits _ => exact .inr ⟨hne, hdigits⟩

theorem Closing.head {us : List Token} (h : Closing us) :
    ∀ t ∈ us.head?, t.kind ≠ .completionType := by
  intro t ht
  cases h with
  | nil => cases ht
  | separator hsep hcs =>
      cases ht
      simp [hsep]

theorem Segments.head {ts us : List Token} {ss : List Segment} (h : Segments ts ss)
    (hus : Closing us) : ∀ t ∈ (ts ++ us).head?, t.kind ≠ .completionType := by
  intro t ht
  cases h with
  | nil => exact hus.head t ht
  | word hword _ =>
      cases ht
      rcases word?_eq_some_iff.1 hword with ⟨hkind, -⟩ | ⟨hkind, -⟩ <;> simp [hkind]
  | continuation hkind _ =>
      cases ht
      simp [hkind]
  | slot hkind _ _ =>
      cases ht
      simp [hkind]
  | completed hkind _ _ _ =>
      cases ht
      simp [hkind]

theorem Segments.read {ts us : List Token} {ss : List Segment} (h : Segments ts ss)
    (hus : Closing us) (c : List Statement) (s : Statement) (hd : Distinct (s.segments ++ ss)) :
    Reading.read ⟨c, s, .words⟩ (ts ++ us) =
      Reading.read ⟨c, { s with segments := s.segments ++ ss }, .words⟩ us := by
  induction h generalizing s with
  | nil => simp
  | @word t ts w ss hword _ ih =>
      rw [List.append_cons] at hd ⊢
      rw [List.cons_append, read_of_step (Moves.word hword).step_eq, ih _ hd]
  | continuation hkind _ ih =>
      rw [List.cons_append, read_of_step (Moves.wordsSkip hkind).step_eq, ih _ hd]
  | @slot t ts slot ss hkind hslot hsegments ih =>
      rw [List.append_cons] at hd ⊢
      rw [List.cons_append,
        read_of_step (step_placeholder hkind ((slotOf_eq_ok_iff hslot.isSlot).2 hslot)),
        read_completion (hsegments.head hus), addPlaceholder_of_distinct (distinct_append_left hd)]
      exact ih _ hd
  | @completed t name ts slot ss hkind hslot hname _ ih =>
      rw [List.append_cons] at hd ⊢
      have hadd : step ⟨c, s, .completion slot⟩ name =
          addPlaceholder ⟨c, s, .completion slot⟩ slot (completer? name.text) :=
        step_completionType hname
      rw [addPlaceholder_of_distinct (distinct_append_left hd)] at hadd
      rw [List.cons_append, List.cons_append,
        read_of_step (step_placeholder hkind ((slotOf_eq_ok_iff hslot.isSlot).2 hslot)),
        read_of_step hadd]
      exact ih _ hd

theorem Closing.read {us : List Token} (h : Closing us) {c : List Statement} {s : Statement}
    (hs : s.isEmpty = false) : Reading.read ⟨c, s, .words⟩ us = .ok (c ++ [s]) := by
  have hcomplete : Complete c s ⟨c, s, .words⟩ := .opened (.words s)
  cases h with
  | nil => exact hcomplete.finish hs
  | separator hsep hcs =>
      rw [read_of_step (Moves.close hcomplete hs hsep).step_eq, Reading.read, hcs.steps]
      rfl

theorem distinct_literal {w : Text} {ss : List Segment} :
    Distinct (.literal w :: ss) ↔ Distinct ss := Iff.rfl

theorem IsDescription.read {ts : List Token} {ss : List Segment} (h : IsDescription ts ss) :
    start.read ts = .ok [⟨ss, [], none⟩] := by
  obtain @⟨cs, t, w, ts, ss, us, hcs, hfirst, hsegments, hclosing, hdistinct⟩ := h
  have hskip : start.read (cs ++ t :: (ts ++ us)) = start.read (t :: (ts ++ us)) := by
    rw [Reading.read, steps_append, start, hcs.steps]
    rfl
  calc
    start.read (cs ++ t :: (ts ++ us)) = start.read (t :: (ts ++ us)) := hskip
    _ = Reading.read ⟨[], ⟨[.literal w], [], none⟩, .words⟩ (ts ++ us) :=
      read_of_step (Moves.first hfirst).step_eq _
    _ = Reading.read ⟨[], ⟨.literal w :: ss, [], none⟩, .words⟩ us :=
      hsegments.read hclosing [] ⟨[.literal w], [], none⟩ (distinct_literal.2 hdistinct)
    _ = .ok [⟨.literal w :: ss, [], none⟩] := hclosing.read rfl

/-! ## What is read is derived -/

/-- What is left of a description of which some segments have been read, and
all its segments. -/
inductive Rest (front : List Segment) : List Token → List Segment → Prop where
  | mk {ts ss us} (hsegments : Segments ts ss) (hclosing : Closing us)
      (hdistinct : Distinct (front ++ ss)) : Rest front (ts ++ us) (front ++ ss)

theorem Rest.closing {front : List Segment} {us : List Token} (h : Closing us)
    (hdistinct : Distinct front) : Rest front us front := by
  have hrest : Rest front ([] ++ us) (front ++ []) := .mk .nil h (by rwa [List.append_nil])
  rwa [List.append_nil, List.nil_append] at hrest

theorem Rest.continuation {front ss : List Segment} {t : Token} {ts : List Token}
    (h : Rest front ts ss) (ht : t.kind = .continuation) : Rest front (t :: ts) ss := by
  cases h with
  | mk hsegments hclosing hdistinct => exact .mk (.continuation ht hsegments) hclosing hdistinct

/-- A segment that has been read is put back together with its tokens. -/
theorem Rest.back {front ss : List Segment} {segment : Segment} {ts : List Token} (us : List Token)
    (h : Rest (front ++ [segment]) ts ss)
    (hback : ∀ {ts ss}, Segments ts ss → Segments (us ++ ts) (segment :: ss)) :
    Rest front (us ++ ts) ss := by
  cases h with
  | mk hsegments hclosing hdistinct =>
      rw [← List.append_cons] at hdistinct ⊢
      rw [← List.append_assoc]
      exact .mk (hback hsegments) hclosing hdistinct

/-- Something that weighs more than a description is no description. -/
theorem read_ne_of_bears {r : Reading} (hr : Bears 2 r) {ts : List Token} {ss : List Segment} :
    r.read ts ≠ .ok [⟨ss, [], none⟩] := by
  intro h
  have hweight : 2 ≤ 1 := hr.read h
  exact absurd hweight (by decide)

/-- Whoever asks for a filter or a file does not read a description. -/
theorem read_ne_of_asked {s : Statement} (hs : s.isEmpty = false) {e : Expecting}
    (he : asked e = 1) {ts : List Token} {ss : List Segment} :
    Reading.read ⟨[], s, e⟩ ts ≠ .ok [⟨ss, [], none⟩] := by
  apply read_ne_of_bears
  apply bears_of_begun hs
  rw [he, weights_nil]
  simp only [Statement.weight]
  omega

theorem continuations_of_read {s : Statement} {ts : List Token} {ss : List Segment}
    (h : Reading.read ⟨[s], .empty, .statement⟩ ts = .ok [⟨ss, [], none⟩]) :
    Continuations ts ∧ s = ⟨ss, [], none⟩ := by
  induction ts with
  | nil =>
      cases h
      exact ⟨continuations_nil, rfl⟩
  | cons t ts ih =>
      obtain ⟨r, hstep, hread⟩ := exists_step_of_read h
      -- With a word a second statement has begun, and two of them weigh two.
      have hword (w : Text) :
          Reading.read ⟨[s], ⟨[.literal w], [], none⟩, .words⟩ ts ≠ .ok [⟨ss, [], none⟩] := by
        refine read_ne_of_bears (bears_of_begun rfl ?_)
        rw [weights_singleton]
        simp only [Statement.weight, asked, List.length_nil]
        omega
      obtain ⟨kind, text⟩ := t
      cases kind with
      | word =>
          cases hstep
          exact absurd hread (hword _)
      | quoted =>
          cases hstep
          exact absurd hread (hword _)
      | continuation =>
          cases hstep
          obtain ⟨hcs, hs⟩ := ih hread
          exact ⟨hcs.cons rfl, hs⟩
      | _ => cases hstep

theorem exists_slotOf {c : List Statement} {s : Statement} {t : Token} {r : Reading}
    (hkind : t.kind = .placeholder) (h : step ⟨c, s, .words⟩ t = .ok r) :
    ∃ slot, slotOf t.text = .ok slot ∧ r = ⟨c, s, .completion slot⟩ := by
  cases hslot : slotOf t.text with
  | error e => simp [step, stepWords, hkind, hslot, Except.map] at h
  | ok slot =>
      rw [step_placeholder hkind hslot] at h
      cases h
      exact ⟨slot, rfl, rfl⟩

/-- A placeholder takes one token or, with the name of a completer, two. -/
theorem exists_of_read_placeholder {c us : List Statement} {s : Statement} {t : Token}
    {ts : List Token} (hkind : t.kind = .placeholder) (hslot : t.text.IsSlot)
    (h : Reading.read ⟨c, s, .words⟩ (t :: ts) = .ok us) :
    ∃ (segment : Segment) (names rest : List Token), ts = names ++ rest ∧
      (Distinct s.segments → Distinct (s.segments ++ [segment])) ∧
      Reading.read ⟨c, { s with segments := s.segments ++ [segment] }, .words⟩ rest = .ok us ∧
      ∀ {vs ss}, Segments vs ss → Segments (t :: (names ++ vs)) (segment :: ss) := by
  obtain ⟨r, hstep, hread⟩ := exists_step_of_read h
  obtain ⟨slot, hof, rfl⟩ := exists_slotOf hkind hstep
  have hnames : Names t.text slot := (slotOf_eq_ok_iff hslot).1 hof
  by_cases hname : ∃ name rest, ts = name :: rest ∧ name.kind = .completionType
  · obtain ⟨name, rest, rfl, hname⟩ := hname
    obtain ⟨r, hstep, hread⟩ := exists_step_of_read hread
    rw [step_completionType hname] at hstep
    obtain ⟨hfree, rfl⟩ := addPlaceholder_eq_ok hstep
    refine ⟨_, [name], rest, rfl, ?_, hread, .completed hkind hnames hname⟩
    intro hd
    exact distinct_concat.2 ⟨hd, hasSlot_eq_false_iff.1 hfree⟩
  · have hhead : ∀ u ∈ ts.head?, u.kind ≠ .completionType := by
      intro u hu hkind
      obtain ⟨rest, rfl⟩ := List.head?_eq_some_iff.1 hu
      exact hname ⟨u, rest, rfl, hkind⟩
    rw [read_completion hhead] at hread
    cases hadd : addPlaceholder ⟨c, s, .completion slot⟩ slot none with
    | error e =>
        rw [hadd] at hread
        cases hread
    | ok r =>
        rw [hadd] at hread
        obtain ⟨hfree, rfl⟩ := addPlaceholder_eq_ok hadd
        refine ⟨_, [], ts, rfl, ?_, hread, .slot hkind hnames⟩
        intro hd
        exact distinct_concat.2 ⟨hd, hasSlot_eq_false_iff.1 hfree⟩

/-- By strong induction on the tokens, since a placeholder may take two. -/
theorem rest_of_read {ts : List Token} (hts : ∀ t ∈ ts, t.kind = .placeholder → t.text.IsSlot)
    {front : List Segment} (hne : front ≠ []) (hd : Distinct front) {ss : List Segment}
    (h : Reading.read ⟨[], ⟨front, [], none⟩, .words⟩ ts = .ok [⟨ss, [], none⟩]) :
    Rest front ts ss := by
  induction hn : ts.length using Nat.strong_induction_on generalizing ts front with
  | _ n ih =>
      subst hn
      have hs : (⟨front, [], none⟩ : Statement).isEmpty = false := by
        simpa [Statement.isEmpty] using hne
      cases ts with
      | nil =>
          have hfinish := (Complete.opened (.words (c := []) ⟨front, [], none⟩)).finish hs
          cases hfinish.symm.trans h
          exact .closing .nil hd
      | cons t ts =>
          have htail : ∀ u ∈ ts, u.kind = .placeholder → u.text.IsSlot :=
            fun u hu => hts u (List.mem_cons_of_mem t hu)
          have hshorter : ts.length < (t :: ts).length := Nat.lt_succ_self _
          obtain ⟨r, hstep, hread⟩ := exists_step_of_read h
          -- A word is the same step whether it was quoted or not.
          have hword {w : Text} (hw : t.word? = some w) : Rest front (t :: ts) ss := by
            rw [(Moves.word hw).step_eq] at hstep
            cases hstep
            have hrest := ih _ hshorter htail (by simp) (distinct_concat_literal.2 hd) hread rfl
            exact hrest.back [t] (.word hw)
          cases hkind : t.kind with
          | word => exact hword (w := t.text) (by simp [Token.word?, hkind])
          | quoted => exact hword (w := Quoted.unquote t.text) (by simp [Token.word?, hkind])
          | continuation =>
              rw [(Moves.wordsSkip hkind).step_eq] at hstep
              cases hstep
              exact (ih _ hshorter htail hne hd hread rfl).continuation hkind
          | separator =>
              rw [(Moves.close (.opened (.words ⟨front, [], none⟩)) hs hkind).step_eq] at hstep
              cases hstep
              obtain ⟨hcs, hfront⟩ := continuations_of_read hread
              cases hfront
              exact .closing (.separator hkind hcs) hd
          | pipe =>
              rw [(Moves.pipe (.words ⟨front, [], none⟩) hkind).step_eq] at hstep
              cases hstep
              exact absurd hread (read_ne_of_asked hs rfl)
          | redirect =>
              rw [(Moves.redirect (.words ⟨front, [], none⟩) hkind).step_eq] at hstep
              cases hstep
              exact absurd hread (read_ne_of_asked hs rfl)
          | completionType => simp [step, stepWords, hkind] at hstep
          | filename => simp [step, stepWords, hkind] at hstep
          | placeholder =>
              have hslot := hts t List.mem_cons_self hkind
              obtain ⟨segment, names, rest, rfl, hdistinct, hread, hback⟩ :=
                exists_of_read_placeholder hkind hslot h
              have hlength : rest.length < (t :: (names ++ rest)).length := by
                simp only [List.length_cons, List.length_append]
                omega
              have hlater : ∀ u ∈ rest, u.kind = .placeholder → u.text.IsSlot :=
                fun u hu => htail u (List.mem_append_right names hu)
              have hrest := ih _ hlength hlater (by simp) (hdistinct hd) hread rfl
              exact hrest.back (t :: names) hback

theorem IsDescription.skip {t : Token} {ts : List Token} {ss : List Segment}
    (ht : t.kind = .continuation) (h : IsDescription ts ss) : IsDescription (t :: ts) ss := by
  obtain @⟨cs, u, w, ts, ss, us, hcs, hfirst, hsegments, hclosing, hdistinct⟩ := h
  exact .mk (hcs.cons ht) hfirst hsegments hclosing hdistinct

theorem isDescription_of_read {ts : List Token}
    (hts : ∀ t ∈ ts, t.kind = .placeholder → t.text.IsSlot) {ss : List Segment}
    (h : start.read ts = .ok [⟨ss, [], none⟩]) : IsDescription ts ss := by
  induction ts with
  | nil => cases h
  | cons t ts ih =>
      have htail : ∀ u ∈ ts, u.kind = .placeholder → u.text.IsSlot :=
        fun u hu => hts u (List.mem_cons_of_mem t hu)
      obtain ⟨r, hstep, hread⟩ := exists_step_of_read h
      cases hword : t.word? with
      | some w =>
          rw [start, (Moves.first hword).step_eq] at hstep
          cases hstep
          have hfirst : Distinct [.literal w] := List.nodup_nil
          have hrest := rest_of_read htail (by simp) hfirst hread
          cases hrest with
          | mk hsegments hclosing hdistinct =>
              exact .mk continuations_nil hword hsegments hclosing (distinct_literal.1 hdistinct)
      | none =>
          by_cases hskip : t.kind = .continuation
          · rw [start, (Moves.skip hskip).step_eq] at hstep
            cases hstep
            exact .skip hskip (ih htail hread)
          · obtain ⟨kind, text⟩ := t
            cases kind <;> simp [step, start, Token.word?] at hstep hword hskip

end Grammar

namespace Description

open Grammar

theorem parse_eq_ok_iff {source : Text} {d : Description} :
    Description.parse source = .ok d ↔
      ∃ ss, Statement.parse .description source = .ok [⟨ss, [], none⟩] ∧
        d = ⟨source, ⟨ss, [], none⟩⟩ := by
  unfold Description.parse
  constructor
  · intro h
    split at h
    · cases h
    · cases h
    · next s hparse =>
        split at h
        · next hplain =>
            cases h
            obtain ⟨ss, filters, output⟩ := s
            simp only [Bool.and_eq_true, List.isEmpty_iff, Option.isNone_iff_eq_none] at hplain
            obtain ⟨rfl, rfl⟩ := hplain
            exact ⟨ss, hparse, rfl⟩
        · cases h
    · cases h
  · rintro ⟨ss, hparse, rfl⟩
    rw [hparse]
    rfl

/-- What a description that is accepted was derived from. -/
theorem exists_isDescription {source : Text} {d : Description}
    (h : Description.parse source = .ok d) :
    ∃ ts ss, scan .description source = (ts, none) ∧ IsDescription ts ss ∧
      d = ⟨source, ⟨ss, [], none⟩⟩ := by
  obtain ⟨ss, hparse, rfl⟩ := parse_eq_ok_iff.1 h
  obtain ⟨ts, r, hscan, hsteps, hfinish⟩ := Statement.exists_of_parse_eq_ok hparse
  have hread : Reading.start.read ts = .ok [⟨ss, [], none⟩] := by
    rw [Reading.read, hsteps]
    exact hfinish
  exact ⟨ts, ss, hscan, isDescription_of_read (isSlot_of_scan hscan) hread, rfl⟩

theorem parse_of_isDescription {source : Text} {ts : List Token} {ss : List Segment}
    (hscan : scan .description source = (ts, none)) (h : IsDescription ts ss) :
    Description.parse source = .ok ⟨source, ⟨ss, [], none⟩⟩ := by
  refine parse_eq_ok_iff.2 ⟨ss, ?_, rfl⟩
  rw [Statement.parse_of_scan hscan]
  exact h.read

/-- A description that is accepted begins with a word, and each of its slots
occurs once. -/
theorem exists_literal_cons {source : Text} {d : Description}
    (h : Description.parse source = .ok d) :
    ∃ w rest, d.segments = .literal w :: rest ∧ Distinct d.segments := by
  obtain ⟨ts, ss, -, hdescription, rfl⟩ := exists_isDescription h
  obtain @⟨cs, t, w, ts, ss, us, -, -, -, -, hdistinct⟩ := hdescription
  exact ⟨w, ss, rfl, hdistinct⟩

/-- A description is accepted if and only if it can be divided into tokens that
the grammar derives, and then it has the segments that they stand for. So it
begins with a word, has each slot at most once, and neither filters nor an
output file. -/
theorem parse_iff (source : Text) :
    (∀ d, Description.parse source = .ok d ↔
      ∃ ts ss, scan .description source = (ts, none) ∧ IsDescription ts ss ∧
        d = ⟨source, ⟨ss, [], none⟩⟩) ∧
    ∀ d, Description.parse source = .ok d →
      (∃ w rest, d.segments = .literal w :: rest) ∧ Distinct d.segments ∧
        d.statement.filters = [] ∧ d.statement.output = none := by
  constructor
  · intro d
    constructor
    · exact exists_isDescription
    · rintro ⟨ts, ss, hscan, hdescription, rfl⟩
      exact parse_of_isDescription hscan hdescription
  · intro d h
    obtain ⟨w, rest, hsegments, hdistinct⟩ := exists_literal_cons h
    obtain ⟨ts, ss, -, -, rfl⟩ := exists_isDescription h
    exact ⟨⟨w, rest, hsegments⟩, hdistinct, rfl, rfl⟩

/-- Numbers out of order, the name of a completer and a semicolon at the end. -/
theorem parse_iff_two_slots :
    (∃ ts, scan .description "copy $2:file to $1;".toList = (ts, none) ∧
      IsDescription ts [.literal "copy".toList, .placeholder (.numbered 2) (some "file".toList),
        .literal "to".toList, .placeholder (.numbered 1) none]) ∧
    Distinct [.literal "copy".toList, .placeholder (.numbered 2) (some "file".toList),
      .literal "to".toList, .placeholder (.numbered 1) none] := by
  have hparse : Description.parse "copy $2:file to $1;".toList =
      .ok ⟨"copy $2:file to $1;".toList,
        ⟨[.literal "copy".toList, .placeholder (.numbered 2) (some "file".toList),
          .literal "to".toList, .placeholder (.numbered 1) none], [], none⟩⟩ := by cbv
  have hiff := parse_iff "copy $2:file to $1;".toList
  obtain ⟨ts, ss, hscan, hdescription, hd⟩ := (hiff.1 _).1 hparse
  cases hd
  exact ⟨⟨ts, hscan, hdescription⟩, (hiff.2 _ hparse).2.1⟩

/-- Digits of the same value name the same slot. -/
example : Description.parse "a $1 $01".toList =
    .error (.invalidDescription "a $1 $01".toList (.duplicatePlaceholder (.numbered 1))) := by
  cbv

end Description

end MenuLine
