import MenuLine.Proofs.Agreement

/-!
# What becomes of the typed words

`Completion.mem_suggest_iff` says which lines are suggested. With descriptions
that hold no placeholders a suggestion takes the last typed word away and puts
a word of a description in its place: the one that the typed word begins, or,
where that word is typed in full, the one behind it. This is
`Completion.suggest_of_literals`.
-/

namespace MenuLine

/-! ## Repetitions -/

theorem eraseRepsBy_loop (r : α → α → Bool) (a : α) (l front : List α) :
    List.eraseRepsBy.loop r a l front = front.reverse ++ List.eraseRepsBy.loop r a l [] := by
  induction l generalizing a front with
  | nil => simp [List.eraseRepsBy.loop]
  | cons b l ih =>
      simp only [List.eraseRepsBy.loop]
      cases r a b with
      | true => exact ih a front
      | false =>
          dsimp only
          rw [ih b (a :: front), ih b [a]]
          simp

theorem eraseReps_cons_cons [BEq α] (a b : α) (l : List α) :
    (a :: b :: l).eraseReps = if a == b then (a :: l).eraseReps else a :: (b :: l).eraseReps := by
  have hloop (c : α) (m : List α) :
      (c :: m).eraseReps = List.eraseRepsBy.loop (· == ·) c m [] := rfl
  rw [hloop, hloop, hloop, List.eraseRepsBy.loop]
  cases a == b with
  | true => rfl
  | false => exact eraseRepsBy_loop _ b l [a]

/-- Only what comes again right away is taken out. -/
theorem mem_eraseReps [BEq α] [LawfulBEq α] {x : α} {l : List α} : x ∈ l.eraseReps ↔ x ∈ l := by
  cases l with
  | nil => rfl
  | cons a l =>
      induction l generalizing a with
      | nil => rfl
      | cons b l ih =>
          rw [eraseReps_cons_cons]
          by_cases hab : a = b
          · subst hab
            rw [if_pos (beq_self_eq_true a), ih]
            simp
          · rw [if_neg (by simpa using hab), List.mem_cons, ih, ← List.mem_cons]

namespace Text

/-- A line is continued by continuing its last word. -/
theorem spaced_prefix (front : List Text) {u v : Text} (h : u <+: v) :
    spaced (front ++ [u]) <+: spaced (front ++ [v]) := by
  induction front with
  | nil => simpa using h
  | cons w front ih =>
      rw [List.cons_append, List.cons_append, spaced_cons (by simp), spaced_cons (by simp)]
      exact (List.prefix_append_right_inj w).2 (List.cons_prefix_cons.2 ⟨rfl, ih⟩)

end Text

namespace Quoted

theorem escape_append {quote : Char} {t : Text} (ht : ∀ c ∈ t, c ≠ quote ∧ c ≠ '\\') (u : Text) :
    escape quote (t ++ u) = t ++ escape quote u := by
  induction t with
  | nil => rfl
  | cons c t ih =>
      have hc := ht c List.mem_cons_self
      rw [List.cons_append, escape, if_neg (by simpa using hc),
        ih fun d hd => ht d (List.mem_cons_of_mem c hd)]
      rfl

/-- The beginning of a requoted word, of which `typed` has been typed. -/
def opening (word typed : Text) : Text := if isPlain word then typed else '"' :: typed

theorem opening_prefix {word typed : Text} (htyped : isPlain typed = true) (h : typed <+: word) :
    opening word typed <+: requote word := by
  unfold opening requote
  split
  · exact h
  · obtain ⟨u, rfl⟩ := h
    have hbare : ∀ c ∈ typed, c ≠ '"' ∧ c ≠ '\\' := by
      intro c hc
      have hc := bare_of_needsQuotes ((isPlain_iff.1 htyped).2 c hc)
      refine ⟨?_, hc.slash⟩
      rintro rfl
      exact absurd hc.quote (by decide)
    rw [quote, escape_append hbare, List.append_assoc]
    exact List.cons_prefix_cons.2 ⟨rfl, List.prefix_append _ _⟩

end Quoted

namespace Completion

variable (lookup : Text → Option Completer) (typed : List Segment)

/-- Whether some description finishes the last typed word. -/
def finishing (descriptions : List Statement) : Bool :=
  descriptions.any fun d => (offer lookup typed d).1 == .part

/-- The typed words that a suggestion keeps. -/
def kept (descriptions : List Statement) : List Text :=
  let words := typed.map fun s => Quoted.requote s.text
  if finishing lookup typed descriptions then words.dropLast else words

variable {lookup typed}

theorem any_offers (descriptions : List Statement) :
    (((descriptions.map (offer lookup typed)).filter fun o => o.1 != .none).any
      fun o => o.1 == .part) = finishing lookup typed descriptions := by
  rw [Bool.eq_iff_iff]
  simp only [finishing, List.any_eq_true, List.mem_filter, List.mem_map, beq_iff_eq, bne_iff_ne]
  constructor
  · rintro ⟨o, ⟨⟨d, hd, rfl⟩, -⟩, ho⟩
    exact ⟨d, hd, ho⟩
  · rintro ⟨d, hd, ho⟩
    exact ⟨_, ⟨⟨d, hd, rfl⟩, by simp [ho]⟩, ho⟩

theorem mem_suggest_iff {line : Text} {descriptions : List Statement} :
    line ∈ suggest lookup typed descriptions ↔
      ∃ d ∈ descriptions, ∃ word ∈ (offer lookup typed d).2,
        word ≠ [] ∧ (offer lookup typed d).1 ≠ .none ∧
        (finishing lookup typed descriptions = true → (offer lookup typed d).1 = .part) ∧
        line = Text.spaced (kept lookup typed descriptions ++ [Quoted.requote word]) := by
  simp only [suggest, any_offers, List.mem_map, mem_eraseReps, List.mem_mergeSort, List.mem_filter,
    List.mem_flatMap, Bool.not_eq_true', List.isEmpty_eq_false_iff, bne_iff_ne, Bool.or_eq_true,
    beq_iff_eq]
  constructor
  · rintro ⟨word, ⟨⟨o, ⟨⟨⟨d, hd, rfl⟩, hnone⟩, hpart⟩, hword⟩, hne⟩, rfl⟩
    refine ⟨d, hd, word, hword, hne, hnone, fun hfinishing => ?_, rfl⟩
    exact hpart.resolve_left (by simp [hfinishing])
  · rintro ⟨d, hd, word, hword, hne, hnone, hpart, rfl⟩
    refine ⟨word, ⟨⟨_, ⟨⟨⟨d, hd, rfl⟩, hnone⟩, ?_⟩, hword⟩, hne⟩, rfl⟩
    cases hfinishing : finishing lookup typed descriptions with
    | true => exact .inr (hpart hfinishing)
    | false => exact .inl rfl

/-! ## Descriptions without placeholders -/

/-- A typed word at its place in a description: the literal word there begins
with it. -/
def Begins (typed : Text) (described : Segment) : Prop :=
  ∃ word, described = .literal word ∧ typed <+: word

/-- The words in front of the last one begin those of a description, and the
last one is a proper beginning of the description's next word. -/
structure Finishes (front : List Text) (last : Text) (d : Statement) (word : Text) : Prop where
  place : ∃ before behind, d.segments = before ++ .literal word :: behind ∧
    List.Forall₂ Begins front before
  begun : last <+: word
  unfinished : last ≠ word

/-- The words in front of the last one begin those of a description, the last
one is the description's next word, and another word comes behind it. -/
structure Continues (front : List Text) (last : Text) (d : Statement) (word : Text) : Prop where
  place : ∃ before behind, d.segments = before ++ .literal last :: .literal word :: behind ∧
    List.Forall₂ Begins front before

theorem exists_literal {s : Segment} (h : s.isPlaceholder = false) : ∃ t, s = .literal t := by
  cases s with
  | literal t => exact ⟨t, rfl⟩
  | placeholder slot completion => simp [Segment.isPlaceholder, Segment.slot?] at h

theorem extent_literal (u t : Text) :
    extent (.literal u) (.literal t) =
      if t = u then .whole else if u.isPrefixOf t then .part else .none := rfl

theorem extent_ne_none_iff {u t : Text} : extent (.literal u) (.literal t) ≠ .none ↔ u <+: t := by
  rw [extent_literal]
  by_cases hwhole : t = u
  · simp [hwhole]
  · rw [if_neg hwhole, ← List.isPrefixOf_iff_prefix]
    cases u.isPrefixOf t <;> simp

theorem forall₂_extent {front : List Text} {before : List Segment}
    (h : List.Forall₂ Begins front before) :
    List.Forall₂ (fun u d => extent u d ≠ .none) (front.map .literal) before := by
  induction h with
  | nil => exact .nil
  | cons hbegins _ ih =>
      obtain ⟨word, rfl, hprefix⟩ := hbegins
      exact .cons (extent_ne_none_iff.2 hprefix) ih

/-- Whatever is found along a description without placeholders is found at the
place of the last word, all words in front of which begin those of the
description. -/
theorem exists_of_target {front : List Text} {u : Segment} {ds : List Segment}
    {found : Extent × Text × Segment} (hds : ∀ s ∈ ds, s.isPlaceholder = false)
    (h : target (front.map .literal ++ [u]) ds = some found) :
    ∃ before described behind, ds = before ++ .literal described :: behind ∧
      List.Forall₂ Begins front before ∧
      target [u] (.literal described :: behind) = some found := by
  induction front generalizing ds with
  | nil =>
      cases ds with
      | nil => cases h
      | cons d ds =>
          obtain ⟨described, rfl⟩ := exists_literal (hds d List.mem_cons_self)
          exact ⟨[], described, ds, rfl, .nil, h⟩
  | cons typed front ih =>
      obtain ⟨v, line, hline⟩ := List.exists_cons_of_ne_nil
        (List.append_ne_nil_of_right_ne_nil (front.map .literal) (List.cons_ne_nil u []))
      rw [List.map_cons, List.cons_append, hline] at h
      cases ds with
      | nil => cases h
      | cons d ds =>
          obtain ⟨word, rfl⟩ := exists_literal (hds d List.mem_cons_self)
          by_cases hextent : extent (.literal typed) (.literal word) = .none
          · have hnone : target (.literal typed :: v :: line) (.literal word :: ds) = none :=
              if_pos hextent
            cases hnone.symm.trans h
          · rw [target_cons_cons hextent, ← hline] at h
            obtain ⟨before, described, behind, rfl, hfront, hfound⟩ :=
              ih (fun s hs => hds s (List.mem_cons_of_mem _ hs)) h
            have htyped : Begins typed (.literal word) :=
              ⟨word, rfl, extent_ne_none_iff.1 hextent⟩
            exact ⟨.literal word :: before, described, behind, rfl, .cons htyped hfront, hfound⟩

theorem offer_of_literals (lookup : Text → Option Completer) {line : List Segment}
    (hline : line ≠ []) {d : Statement} (hd : ∀ s ∈ d.segments, s.isPlaceholder = false) :
    offer lookup line d =
      if d.segments.length < line.length then nothing
      else offerTarget lookup (target line d.segments) := by
  have hwildcard : d.segments.find? Segment.isWildcard = none := by
    refine List.find?_eq_none.2 fun s hs => ?_
    obtain ⟨t, rfl⟩ := exists_literal (hd s hs)
    simp
  have hlast := List.getLast?_eq_some_getLast hline
  obtain ⟨segments, filters, output⟩ := d
  cases segments with
  | nil => simp [List.length_pos_iff.2 hline]
  | cons s ss =>
      dsimp only at hwildcard
      simp [offer, hlast, hwildcard]

variable {front : List Text} {last word : Text} {d : Statement}

/-- Behind words that begin those of the description only the last one counts. -/
theorem offer_of_begins (lookup : Text → Option Completer)
    (hd : ∀ s ∈ d.segments, s.isPlaceholder = false) {before behind : List Segment}
    {described : Segment} (hsegments : d.segments = before ++ described :: behind)
    (hfront : List.Forall₂ Begins front before) :
    offer lookup ((front ++ [last]).map .literal) d =
      offerTarget lookup (target [.literal last] (described :: behind)) := by
  have hlength := hfront.length_eq
  have hle : ¬ d.segments.length < ((front ++ [last]).map Segment.literal).length := by
    simp [hsegments, hlength]
  rw [offer_of_literals lookup (by simp) hd, if_neg hle, hsegments, List.map_append,
    List.map_singleton, target_append (forall₂_extent hfront)]

theorem Finishes.offer_eq (lookup : Text → Option Completer) (h : Finishes front last d word)
    (hd : ∀ s ∈ d.segments, s.isPlaceholder = false) :
    offer lookup ((front ++ [last]).map .literal) d = (.part, [word]) := by
  obtain ⟨before, behind, hsegments, hfront⟩ := h.place
  have hbegun : last.isPrefixOf word = true := List.isPrefixOf_iff_prefix.2 h.begun
  rw [offer_of_begins lookup hd hsegments hfront, target, extent_literal,
    if_neg (Ne.symm h.unfinished), if_pos hbegun]
  rfl

theorem Continues.offer_eq (lookup : Text → Option Completer) (h : Continues front last d word)
    (hd : ∀ s ∈ d.segments, s.isPlaceholder = false) :
    offer lookup ((front ++ [last]).map .literal) d = (.part, [word]) := by
  obtain ⟨before, behind, hsegments, hfront⟩ := h.place
  rw [offer_of_begins lookup hd hsegments hfront, target_literal]
  rfl

/-- A description without placeholders offers at most one word: the one that
the last typed word begins, or the one behind it. -/
theorem offer_literals (lookup : Text → Option Completer) (front : List Text) (last : Text)
    (hd : ∀ s ∈ d.segments, s.isPlaceholder = false) :
    offer lookup ((front ++ [last]).map .literal) d = nothing ∨
      ∃ word, offer lookup ((front ++ [last]).map .literal) d = (.part, [word]) ∧
        (Finishes front last d word ∨ Continues front last d word) := by
  rw [offer_of_literals lookup (by simp) hd]
  split
  · exact .inl rfl
  · cases htarget : target ((front ++ [last]).map .literal) d.segments with
    | none => exact .inl rfl
    | some found =>
        rw [List.map_append, List.map_singleton] at htarget
        obtain ⟨before, described, behind, hsegments, hfront, hfound⟩ :=
          exists_of_target hd htarget
        right
        rw [target, extent_literal] at hfound
        by_cases hwhole : described = last
        · subst hwhole
          rw [if_pos rfl] at hfound
          obtain ⟨next, hnext, rfl⟩ := Option.map_eq_some_iff.1 hfound
          obtain ⟨behind, rfl⟩ := List.head?_eq_some_iff.1 hnext
          obtain ⟨word, rfl⟩ := exists_literal (hd next (by simp [hsegments]))
          exact ⟨word, rfl, .inr ⟨before, behind, hsegments, hfront⟩⟩
        · rw [if_neg hwhole] at hfound
          by_cases hpart : last.isPrefixOf described = true
          · rw [if_pos hpart] at hfound
            cases hfound
            have hbegun := List.isPrefixOf_iff_prefix.1 hpart
            exact ⟨described, rfl,
              .inl ⟨⟨before, behind, hsegments, hfront⟩, hbegun, Ne.symm hwhole⟩⟩
          · rw [if_neg hpart] at hfound
            cases hfound

theorem mem_suggest_literals_iff {descriptions : List Statement}
    (hliteral : ∀ d ∈ descriptions, ∀ s ∈ d.segments, s.isPlaceholder = false) {line : Text} :
    line ∈ suggest lookup ((front ++ [last]).map .literal) descriptions ↔
      ∃ d ∈ descriptions, ∃ word, word ≠ [] ∧
        offer lookup ((front ++ [last]).map .literal) d = (.part, [word]) ∧
        line = Text.spaced (front.map Quoted.requote ++ [Quoted.requote word]) := by
  have hkept {d : Statement} (hd : d ∈ descriptions)
      (hpart : (offer lookup ((front ++ [last]).map .literal) d).1 = .part) :
      kept lookup ((front ++ [last]).map .literal) descriptions = front.map Quoted.requote := by
    have hfinishing : finishing lookup ((front ++ [last]).map .literal) descriptions = true :=
      List.any_eq_true.2 ⟨d, hd, beq_iff_eq.2 hpart⟩
    rw [kept, hfinishing, if_pos rfl, List.map_map, List.map_append, List.map_singleton,
      List.dropLast_concat]
    rfl
  rw [mem_suggest_iff]
  constructor
  · rintro ⟨d, hd, word, hword, hne, hnone, -, rfl⟩
    rcases offer_literals lookup front last (hliteral d hd) with hoffer | ⟨w, hoffer, -⟩
    · exact absurd (congrArg Prod.fst hoffer) hnone
    · rw [hoffer, List.mem_singleton] at hword
      subst hword
      exact ⟨d, hd, word, hne, hoffer, by rw [hkept hd (congrArg Prod.fst hoffer)]⟩
  · rintro ⟨d, hd, word, hne, hoffer, rfl⟩
    have hpart : (offer lookup ((front ++ [last]).map .literal) d).1 = .part :=
      congrArg Prod.fst hoffer
    refine ⟨d, hd, word, ?_, hne, ?_, fun _ => hpart, ?_⟩
    · rw [hoffer]
      exact List.mem_singleton_self word
    · rw [hpart]
      simp
    · rw [hkept hd hpart]

/-- The lines that are suggested by descriptions without placeholders. Each
keeps the typed words in front of the last, which begin the words of some
description. If the last one is a proper beginning of that description's next
word, the line begins with it as well, behind an opening quote if the finished
word needs quotes; if it is that word, then the word behind takes its place. -/
theorem suggest_of_literals (lookup : Text → Option Completer)
    (hplain : ∀ w ∈ front ++ [last], Quoted.isPlain w = true) {descriptions : List Statement}
    (hliteral : ∀ d ∈ descriptions, ∀ s ∈ d.segments, s.isPlaceholder = false) (line : Text) :
    line ∈ suggest lookup ((front ++ [last]).map .literal) descriptions ↔
      ∃ d ∈ descriptions, ∃ word, line = Text.spaced (front ++ [Quoted.requote word]) ∧
        (Finishes front last d word ∧
            Text.spaced (front ++ [Quoted.opening word last]) <+: line ∨
          Continues front last d word ∧ word ≠ []) := by
  have hlast : Quoted.isPlain last = true := hplain last (by simp)
  have hfront : front.map Quoted.requote = front := by
    rw [List.map_congr_left fun w hw =>
      Quoted.requote_of_isPlain (hplain w (List.mem_append_left _ hw)), List.map_id']
  rw [mem_suggest_literals_iff hliteral, hfront]
  constructor
  · rintro ⟨d, hd, word, hne, hoffer, rfl⟩
    refine ⟨d, hd, word, rfl, ?_⟩
    rcases offer_literals lookup front last (hliteral d hd) with hnothing | ⟨w, hw, hplace⟩
    · cases hoffer.symm.trans hnothing
    · cases hoffer.symm.trans hw
      rcases hplace with hfinishes | hcontinues
      · have hopening := Quoted.opening_prefix hlast hfinishes.begun
        exact .inl ⟨hfinishes, Text.spaced_prefix front hopening⟩
      · exact .inr ⟨hcontinues, hne⟩
  · rintro ⟨d, hd, word, rfl, ⟨hfinishes, -⟩ | ⟨hcontinues, hne⟩⟩
    · refine ⟨d, hd, word, ?_, hfinishes.offer_eq lookup (hliteral d hd), rfl⟩
      rintro rfl
      exact hfinishes.unfinished (List.prefix_nil.1 hfinishes.begun)
    · exact ⟨d, hd, word, hne, hcontinues.offer_eq lookup (hliteral d hd), rfl⟩

/-- A word that is finished between quotes, one that is finished as it stands,
and a description that goes on behind the typed words. -/
theorem suggest_of_literals_quoted :
    let front : List Text := ["say".toList]
    let last : Text := ['a']
    let quoted : Statement := ⟨["say", "a b"].map fun w => .literal w.toList, [], none⟩
    let aloud : Statement := ⟨["say", "aloud"].map fun w => .literal w.toList, [], none⟩
    let more : Statement := ⟨["say", "a", "word"].map fun w => .literal w.toList, [], none⟩
    let lines : List Text := ["say \"a b\"", "say aloud", "say word"].map String.toList
    suggest (fun _ => none) ((front ++ [last]).map .literal) [quoted, aloud, more] = lines ∧
      ∀ line ∈ lines, ∃ d ∈ [quoted, aloud, more], ∃ word,
        line = Text.spaced (front ++ [Quoted.requote word]) ∧
          (Finishes front last d word ∧
              Text.spaced (front ++ [Quoted.opening word last]) <+: line ∨
            Continues front last d word ∧ word ≠ []) := by
  intro front last quoted aloud more lines
  have hliteral : ∀ d ∈ [quoted, aloud, more], ∀ s ∈ d.segments, s.isPlaceholder = false := by
    decide
  have hlines : suggest (fun _ => none) ((front ++ [last]).map .literal) [quoted, aloud, more] =
      lines := by
    simp only [front, last, quoted, aloud, more, lines]
    cbv
  refine ⟨hlines, fun line hline => ?_⟩
  exact (suggest_of_literals _ (by decide) hliteral line).1 (hlines ▸ hline)

/-- Neither a word that has to be quoted nor one that comes after the typed
words leaves them as they were at the beginning of the line. -/
theorem suggest_forgets_typed_word :
    let quoted : Statement := ⟨["say", "a b"].map fun w => .literal w.toList, [], none⟩
    let longer : Statement := ⟨["show", "version"].map fun w => .literal w.toList, [], none⟩
    (Description.parse "say \"a b\"".toList = .ok ⟨"say \"a b\"".toList, quoted⟩ ∧
      suggest (fun _ => none) (["say", "a"].map fun w => .literal w.toList) [quoted] =
        ["say \"a b\"".toList] ∧
      ¬ "say a".toList <+: "say \"a b\"".toList) ∧
    Description.parse "show version".toList = .ok ⟨"show version".toList, longer⟩ ∧
      suggest (fun _ => none) (["show"].map fun w => .literal w.toList) [longer] =
        ["version".toList] ∧
      ¬ "show".toList <+: "version".toList := by
  refine ⟨⟨by cbv, by cbv, by decide⟩, by cbv, by cbv, by decide⟩

end Completion

end MenuLine
