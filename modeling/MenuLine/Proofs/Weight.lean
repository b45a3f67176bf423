import MenuLine.Proofs.Grammar

/-!
# The weight of a line

Every statement, filter and output file has a weight, and so has a filter or a
file that is still asked for. No token that is read takes any weight off again:
`Bears.read`.
-/

namespace MenuLine

namespace Statement

/-- Counts a statement, its filters and its output file. -/
def weight (s : Statement) : Nat := 1 + s.filters.length + s.output.isSome.toNat

end Statement

namespace Reading

def read (r : Reading) (ts : List Token) : Except ParseError (List Statement) :=
  (r.steps ts).bind finish

theorem read_of_step {r r' : Reading} {t : Token} (h : r.step t = .ok r') (ts : List Token) :
    r.read (t :: ts) = r'.read ts := by
  rw [read, steps_cons, h]
  rfl

theorem exists_step_of_read {r : Reading} {t : Token} {ts : List Token} {ss : List Statement}
    (h : r.read (t :: ts) = .ok ss) : ∃ r', r.step t = .ok r' ∧ r'.read ts = .ok ss := by
  cases hstep : r.step t with
  | error e =>
      rw [read, steps_cons, hstep] at h
      cases h
  | ok r' => exact ⟨r', rfl, (read_of_step hstep ts).symm.trans h⟩

def weights : List Statement → Nat
  | [] => 0
  | s :: ss => s.weight + weights ss

@[simp] theorem weights_nil : weights [] = 0 := rfl

@[simp] theorem weights_cons (s : Statement) (ss : List Statement) :
    weights (s :: ss) = s.weight + weights ss := rfl

@[simp] theorem weights_append (ss us : List Statement) :
    weights (ss ++ us) = weights ss + weights us := by
  induction ss with
  | nil => simp
  | cons s ss ih => rw [List.cons_append, weights_cons, weights_cons, ih, Nat.add_assoc]

theorem weights_singleton (s : Statement) : weights [s] = s.weight := rfl

/-- What weighs as much as the filter or the file that is asked for. -/
def asked : Expecting → Nat
  | .filterName | .filterArgs _ | .filename => 1
  | .statement | .words | .completion _ | .separator => 0

def weight (r : Reading) : Nat :=
  weights r.complete + if r.current.isEmpty then 0 else r.current.weight + asked r.expecting

/-- Nothing is read of a statement before its first word. -/
def Settled (r : Reading) : Prop :=
  r.current.isEmpty = true → r = ⟨r.complete, .empty, .statement⟩

theorem weight_of_begun {c : List Statement} {s : Statement} (hs : s.isEmpty = false)
    (e : Expecting) : weight ⟨c, s, e⟩ = weights c + (s.weight + asked e) := by
  simp [weight, hs]

theorem settled_of_begun {c : List Statement} {s : Statement} (hs : s.isEmpty = false)
    (e : Expecting) : Settled ⟨c, s, e⟩ := by
  intro h
  rw [hs] at h
  cases h

theorem settled_statement (c : List Statement) : Settled ⟨c, .empty, .statement⟩ := fun _ => rfl

theorem weight_statement (c : List Statement) : weight ⟨c, .empty, .statement⟩ = weights c := rfl

/-- A reading at which a weight has come, and which still may go on. -/
structure Bears (n : Nat) (r : Reading) : Prop where
  settled : r.Settled
  le : n ≤ r.weight

theorem bears_of_begun {n : Nat} {c : List Statement} {s : Statement} {e : Expecting}
    (hs : s.isEmpty = false) (hn : n ≤ weights c + (s.weight + asked e)) : Bears n ⟨c, s, e⟩ := by
  refine ⟨settled_of_begun hs e, ?_⟩
  rw [weight_of_begun hs]
  exact hn

theorem bears_close {n : Nat} {c : List Statement} {s : Statement} (e : Expecting)
    (hs : s.isEmpty = false) (hn : n ≤ weights c + s.weight) :
    Bears n (⟨c, s, e⟩ : Reading).close := by
  rw [close_eq hs]
  refine ⟨settled_statement _, ?_⟩
  rw [weight_statement, weights_append, weights_singleton]
  exact hn

theorem bears_stepWords {n : Nat} {r r' : Reading} {t : Token} (hs : r.current.isEmpty = false)
    (hn : n ≤ weights r.complete + r.current.weight) (h : r.stepWords t = .ok r') :
    Bears n r' := by
  have hsegment (segment : Segment) : Bears n (r.addSegment segment) :=
    bears_of_begun (by simp [Statement.isEmpty]) hn
  have hexpect (e : Expecting) : Bears n (r.expect e) :=
    bears_of_begun hs (Nat.le_trans hn (by omega))
  obtain ⟨kind, text⟩ := t
  cases kind with
  | word =>
      cases h
      exact hsegment _
  | quoted =>
      cases h
      exact hsegment _
  | placeholder =>
      simp only [stepWords] at h
      cases hslot : slotOf text with
      | error e => simp [hslot, Except.map] at h
      | ok slot =>
          rw [hslot] at h
          cases h
          exact hexpect _
  | continuation =>
      cases h
      exact hexpect _
  | pipe =>
      cases h
      exact hexpect _
  | redirect =>
      cases h
      exact hexpect _
  | separator =>
      cases h
      exact bears_close _ hs hn
  | completionType => cases h
  | filename => cases h

theorem addPlaceholder_eq_ok {r r' : Reading} {slot : Slot} {completion : Option Text}
    (h : r.addPlaceholder slot completion = .ok r') :
    r.current.hasSlot slot = false ∧ r' = r.addSegment (.placeholder slot completion) := by
  unfold addPlaceholder at h
  split at h
  · cases h
  · next hslot =>
      cases h
      exact ⟨by simpa using hslot, rfl⟩

theorem isEmpty_addSegment (r : Reading) (segment : Segment) :
    (r.addSegment segment).current.isEmpty = false := by
  simp [addSegment, Statement.isEmpty]

theorem bears_step_completion {c : List Statement} {s : Statement} {slot : Slot} {t : Token}
    {r : Reading} (h : step ⟨c, s, .completion slot⟩ t = .ok r) :
    Bears (weights c + s.weight) r := by
  simp only [step] at h
  split at h
  · obtain ⟨-, rfl⟩ := addPlaceholder_eq_ok h
    exact bears_of_begun (isEmpty_addSegment _ _) (Nat.le_refl _)
  · cases hadd : addPlaceholder ⟨c, s, .completion slot⟩ slot none with
    | error e =>
        rw [hadd] at h
        cases h
    | ok r' =>
        rw [hadd] at h
        obtain ⟨-, rfl⟩ := addPlaceholder_eq_ok hadd
        exact bears_stepWords (isEmpty_addSegment _ _) (Nat.le_refl _) h

/-- A filter that is complete weighs what its arguments were asked for with. -/
theorem bears_step_filterArgs {c : List Statement} {s : Statement} {f : FilterCall} {t : Token}
    {r : Reading} (hs : s.isEmpty = false) (h : step ⟨c, s, .filterArgs f⟩ t = .ok r) :
    Bears (weights c + (s.weight + 1)) r := by
  have hargs (g : FilterCall) : Bears (weights c + (s.weight + 1)) ⟨c, s, .filterArgs g⟩ :=
    bears_of_begun hs (Nat.le_refl _)
  have hweight : (addFilter ⟨c, s, .filterArgs f⟩ f).current.weight = s.weight + 1 := by
    simp only [addFilter, Statement.weight, List.length_append, List.length_singleton]
    omega
  have hadded (t : Token) (h : (addFilter ⟨c, s, .filterArgs f⟩ f).stepWords t = .ok r) :
      Bears (weights c + (s.weight + 1)) r := by
    apply bears_stepWords hs _ h
    rw [hweight]
    exact Nat.le_refl _
  obtain ⟨kind, text⟩ := t
  cases kind with
  | word =>
      cases h
      exact hargs _
  | quoted =>
      cases h
      exact hargs _
  | continuation =>
      cases h
      exact hargs f
  | separator => exact hadded ⟨.separator, text⟩ h
  | placeholder => exact hadded ⟨.placeholder, text⟩ h
  | completionType => exact hadded ⟨.completionType, text⟩ h
  | pipe => exact hadded ⟨.pipe, text⟩ h
  | redirect => exact hadded ⟨.redirect, text⟩ h
  | filename => exact hadded ⟨.filename, text⟩ h

/-- A second file is refused, so a file always adds to the weight. -/
theorem bears_step_filename {c : List Statement} {s : Statement} {t : Token} {r : Reading}
    (hs : s.isEmpty = false) (h : step ⟨c, s, .filename⟩ t = .ok r) :
    Bears (weights c + (s.weight + 1)) r := by
  simp only [step, setOutput] at h
  split at h
  · split at h
    · cases h
    · next ho =>
        cases h
        have hnone : s.output.isSome = false := by simpa using ho
        refine bears_of_begun hs ?_
        simp [Statement.weight, asked, hnone]
  · cases h

/-- No token takes any weight off. -/
theorem bears_step {c : List Statement} {s : Statement} {e : Expecting} {t : Token} {r : Reading}
    (hs : s.isEmpty = false) (h : step ⟨c, s, e⟩ t = .ok r) :
    Bears (weights c + (s.weight + asked e)) r := by
  cases e with
  | statement =>
      have hwords (t : Token) (h : stepWords ⟨c, s, .statement⟩ t = .ok r) :
          Bears (weights c + s.weight) r := bears_stepWords hs (Nat.le_refl _) h
      obtain ⟨kind, text⟩ := t
      cases kind with
      | word => exact hwords ⟨.word, text⟩ h
      | quoted => exact hwords ⟨.quoted, text⟩ h
      | continuation =>
          cases h
          exact bears_of_begun hs (Nat.le_refl _)
      | _ => cases h
  | words => exact bears_stepWords hs (Nat.le_refl _) h
  | completion slot => exact bears_step_completion h
  | filterName =>
      simp only [step] at h
      split at h
      · cases h
        exact bears_of_begun hs (Nat.le_refl _)
      · cases h
  | filterArgs f => exact bears_step_filterArgs hs h
  | filename => exact bears_step_filename hs h
  | separator =>
      obtain ⟨kind, text⟩ := t
      cases kind with
      | separator =>
          cases h
          exact bears_close _ hs (Nat.le_refl _)
      | redirect =>
          cases h
          apply bears_of_begun hs
          simp only [asked]
          omega
      | _ => cases h

theorem Bears.step {n : Nat} {r r' : Reading} {t : Token} (hr : Bears n r)
    (h : r.step t = .ok r') : Bears n r' := by
  obtain ⟨hsettled, hn⟩ := hr
  cases hs : r.current.isEmpty with
  | false =>
      have hr' := bears_step hs h
      rw [weight, hs, if_neg (by simp)] at hn
      exact ⟨hr'.settled, Nat.le_trans hn hr'.le⟩
  | true =>
      rw [hsettled hs] at h hn
      obtain ⟨kind, text⟩ := t
      cases kind with
      | word =>
          cases h
          exact bears_of_begun rfl (Nat.le_trans hn (Nat.le_add_right _ _))
      | quoted =>
          cases h
          exact bears_of_begun rfl (Nat.le_trans hn (Nat.le_add_right _ _))
      | continuation =>
          cases h
          exact ⟨settled_statement _, hn⟩
      | _ => cases h

theorem le_weights_of_begun {n : Nat} {c : List Statement} {s : Statement} {e : Expecting}
    (hs : s.isEmpty = false) (hn : n ≤ weights c + s.weight) :
    n ≤ weights (⟨c, s, e⟩ : Reading).close.complete := by
  rw [close_eq hs, weights_append, weights_singleton]
  exact hn

theorem Bears.finish {n : Nat} {r : Reading} {ss : List Statement} (hr : Bears n r)
    (h : r.finish = .ok ss) : n ≤ weights ss := by
  obtain ⟨hsettled, hn⟩ := hr
  obtain ⟨c, s, e⟩ := r
  cases hs : s.isEmpty with
  | true =>
      cases hsettled hs
      cases h
      exact hn
  | false =>
      rw [weight_of_begun hs] at hn
      cases e with
      | statement =>
          cases h
          exact le_weights_of_begun hs hn
      | words =>
          cases h
          exact le_weights_of_begun hs hn
      | completion slot =>
          simp only [Reading.finish] at h
          cases hadd : addPlaceholder ⟨c, s, .completion slot⟩ slot none with
          | error e =>
              rw [hadd] at h
              cases h
          | ok r' =>
              rw [hadd] at h
              obtain ⟨-, rfl⟩ := addPlaceholder_eq_ok hadd
              cases h
              exact le_weights_of_begun (by simp [Statement.isEmpty]) hn
      | filterName => cases h
      | filterArgs f =>
          cases h
          refine le_weights_of_begun hs (Nat.le_trans hn ?_)
          simp only [Statement.weight, asked, List.length_append, List.length_singleton]
          omega
      | filename => cases h
      | separator =>
          cases h
          exact le_weights_of_begun hs hn

theorem Bears.read {n : Nat} {r : Reading} (hr : Bears n r) {ts : List Token}
    {ss : List Statement} (h : r.read ts = .ok ss) : n ≤ weights ss := by
  induction ts generalizing r with
  | nil => exact hr.finish h
  | cons t ts ih =>
      obtain ⟨r', hstep, hread⟩ := exists_step_of_read h
      exact ih (hr.step hstep) hread

end Reading

end MenuLine
