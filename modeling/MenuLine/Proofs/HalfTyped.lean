import Mathlib
import MenuLine.Editing
import MenuLine.Navigation
import MenuLine.Proofs.Requoting
import MenuLine.Proofs.Sequencing
import MenuLine.Proofs.SuggestedLines

/-!
# The statement that is being typed

Of a half-typed line, only the words of the last statement that was read have
any bearing on what a shell suggests. Statements in front of it make no
difference: `Shell.suggest_append_semicolon`. Its own filters and its output
make none either, and no suggested line has any: `Shell.parse_of_mem_suggest`.
-/

namespace MenuLine

namespace Statement

/-- The words of the last statement, which are taken to be those being typed. -/
def typed (statements : List Statement) : List Segment :=
  (statements.getLast?.map segments).getD []

theorem typed_append {ss ts : List Statement} (hts : ts ≠ []) : typed (ss ++ ts) = typed ts := by
  rw [typed, List.getLast?_append_of_ne_nil ss hts, typed]

theorem typed_of_getLast? {ss : List Statement} {s : Statement} (h : ss.getLast? = some s) :
    typed ss = s.segments := by
  rw [typed, h]
  rfl

end Statement

namespace Completion

variable {lookup : Text → Option Completer} {typed : List Segment} {descriptions : List Statement}

/-- A suggestion is written out of whole words: those that were typed, or all
of these but the last, and one that is offered. -/
theorem exists_offer_of_mem_suggest {suggested : Text}
    (h : suggested ∈ suggest lookup typed descriptions) :
    ∃ d ∈ descriptions, ∃ front, ∃ word ∈ (offer lookup typed d).2,
      (front = typed.map Segment.text ∨ front = (typed.map Segment.text).dropLast) ∧
      word ≠ [] ∧ suggested = Text.spaced ((front ++ [word]).map Quoted.requote) := by
  obtain ⟨d, hd, word, hoffered, hword, -, -, rfl⟩ := mem_suggest_iff.1 h
  have hwords : (typed.map fun s => Quoted.requote s.text) =
      (typed.map Segment.text).map Quoted.requote := by rw [List.map_map]; rfl
  unfold kept
  rw [hwords]
  split
  · refine ⟨d, hd, (typed.map Segment.text).dropLast, word, hoffered, .inr rfl, hword, ?_⟩
    rw [← List.map_dropLast, List.map_append]
    rfl
  · refine ⟨d, hd, typed.map Segment.text, word, hoffered, .inl rfl, hword, ?_⟩
    rw [List.map_append]
    rfl

end Completion

namespace Shell

open Statement

variable (shell : Shell) (stack : MenuStack) (files : FileTree)

theorem mem_of_mem_capped {shell : Shell} {suggested : Text} {lines : List Text}
    (h : suggested ∈ shell.capped lines) : suggested ∈ lines := by
  unfold capped at h
  split at h
  · exact h
  · exact List.mem_of_mem_take h

theorem suggest_of_error {line : Text} {e : ParseError} (h : parse .input line = .error e) :
    shell.suggest stack files line = [] := by
  rw [suggest, h]

/-- Lines in which the same words are being typed have the same suggestions. -/
theorem suggest_eq_of_typed {line other : Text} {ss ts : List Statement}
    (hline : parse .input line = .ok ss) (hother : parse .input other = .ok ts)
    (h : typed ss = typed ts) :
    shell.suggest stack files line = shell.suggest stack files other := by
  unfold typed at h
  rw [suggest, suggest, hline, hother]
  cases stack.current shell.menus with
  | error e => rfl
  | ok menu =>
      dsimp only
      rw [h]

/-- What is suggested for a half-typed line: the typed words, or all of them but
the last, and a word that a command of the current menu offers. -/
structure Offers (line : Text) (front : List Text) (word : Text) : Prop where
  nonempty : word ≠ []
  offered : ∃ ss menu, parse .input line = .ok ss ∧ stack.current shell.menus = .ok menu ∧
    (front = (typed ss).map Segment.text ∨ front = ((typed ss).map Segment.text).dropLast) ∧
    ∃ d ∈ shell.descriptions menu,
      word ∈ (Completion.offer (shell.completer? files) (typed ss) d).2

theorem exists_offers_of_mem_suggest {line suggested : Text}
    (h : suggested ∈ shell.suggest stack files line) :
    ∃ front word, shell.Offers stack files line front word ∧
      suggested = Text.spaced ((front ++ [word]).map Quoted.requote) := by
  unfold suggest at h
  split at h
  · next ss menu hline hmenu =>
      obtain ⟨d, hd, front, word, hoffered, hfront, hword, hsuggested⟩ :=
        Completion.exists_offer_of_mem_suggest (mem_of_mem_capped h)
      exact ⟨front, word, ⟨hword, ss, menu, hline, hmenu, hfront, d, hd, hoffered⟩, hsuggested⟩
  · exact absurd h List.not_mem_nil

theorem exists_words_of_mem_suggest {line suggested : Text} {ss : List Statement}
    (hline : parse .input line = .ok ss) (h : suggested ∈ shell.suggest stack files line) :
    ∃ front word, (front = (typed ss).map Segment.text ∨
        front = ((typed ss).map Segment.text).dropLast) ∧
      word ≠ [] ∧ suggested = Text.spaced ((front ++ [word]).map Quoted.requote) := by
  obtain ⟨front, word, ⟨hword, ss', menu, hline', -, hfront, -⟩, hsuggested⟩ :=
    exists_offers_of_mem_suggest shell stack files h
  cases hline.symm.trans hline'
  exact ⟨front, word, hfront, hword, hsuggested⟩

/-- A line that a semicolon ends makes no difference to what is typed behind
it, as soon as that holds a word. Until then the statement in front of the
semicolon is the last one that was read, and suggestions are made for it. -/
theorem suggest_append_semicolon {x : Text} {ss us : List Statement}
    (hx : parse .input x = .ok ss) (hsemicolon : parse .input (x ++ [';']) = .ok us) (y : Text) :
    (¬ y.Wordless →
      shell.suggest stack files (x ++ ';' :: y) = shell.suggest stack files y) ∧
    (y.Wordless →
      shell.suggest stack files (x ++ ';' :: y) = shell.suggest stack files x) := by
  obtain ⟨-, happend⟩ := parse_semicolon hx hsemicolon
  have hboth := happend y
  constructor
  · intro hword
    cases hy : parse .input y with
    | error e =>
        rw [hy] at hboth
        rw [suggest_of_error shell stack files hboth, suggest_of_error shell stack files hy]
    | ok ts =>
        rw [hy] at hboth
        apply suggest_eq_of_typed shell stack files hboth hy
        apply typed_append
        rintro rfl
        exact hword (parse_eq_ok_nil_iff.1 hy)
  · intro hwordless
    rw [parse_eq_ok_nil_iff.2 hwordless] at hboth
    apply suggest_eq_of_typed shell stack files hboth hx
    exact congrArg typed (List.append_nil ss)

/-- A filter and an output in front of the semicolon. -/
theorem suggest_append_semicolon_filter_and_output :
    let word (w : String) : Statement := ⟨[.literal w.toList], [], none⟩
    let shell : Shell :=
      { Shell.empty .default with
        menus := ⟨[⟨"main".toList, [⟨⟨"ping".toList, word "ping"⟩, Navigation.leave⟩,
          ⟨⟨"show".toList, word "show"⟩, Navigation.leave⟩]⟩]⟩ }
    let ping : Statement :=
      ⟨[.literal "ping".toList], [⟨"grep".toList, ["x".toList]⟩], some "f".toList⟩
    parse .input "ping | grep x > f".toList = .ok [ping] ∧
      parse .input "ping | grep x > f;".toList = .ok [ping] ∧ ¬ Text.Wordless " sh".toList ∧
      shell.suggest .empty ⟨[], []⟩ "ping | grep x > f; sh".toList =
        shell.suggest .empty ⟨[], []⟩ " sh".toList := by
  intro word shell ping
  have hx : parse .input "ping | grep x > f".toList = .ok [ping] := by cbv
  have hsemicolon : parse .input ("ping | grep x > f".toList ++ [';']) = .ok [ping] := by cbv
  have hword : ¬ Text.Wordless " sh".toList := by
    intro h
    have hy : parse .input " sh".toList = .ok [word "sh"] := by cbv
    rw [parse_eq_ok_nil_iff.2 h] at hy
    cases hy
  exact ⟨hx, hsemicolon, hword,
    (suggest_append_semicolon shell .empty ⟨[], []⟩ hx hsemicolon _).1 hword⟩

/-- Right behind a semicolon, suggestions are made for the statement in front
of it. An editor, which looks for the semicolon itself, gets all first words. -/
theorem suggest_behind_semicolon :
    let word (w : String) : Statement := ⟨[.literal w.toList], [], none⟩
    let shell : Shell :=
      { Shell.empty .default with
        menus := ⟨[⟨"main".toList, [⟨⟨"ping".toList, word "ping"⟩, Navigation.leave⟩,
          ⟨⟨"show".toList, word "show"⟩, Navigation.leave⟩]⟩]⟩ }
    (do
      let shell ← (Shell.empty .default).addMenu "main".toList
      let shell ← shell.addCommand "main".toList "ping".toList Navigation.leave
      shell.addCommand "main".toList "show".toList Navigation.leave) = .ok shell ∧
    parse .input "sh".toList = .ok [word "sh"] ∧ parse .input "sh;".toList = .ok [word "sh"] ∧
      parse .input [] = .ok [] ∧
    shell.suggest .empty ⟨[], []⟩ "sh;".toList = ["show".toList] ∧
      shell.suggest .empty ⟨[], []⟩ [] = ["ping".toList, "show".toList] ∧
      Editing.complete shell .empty ⟨[], []⟩ "sh;".toList 3 =
        (3, ["ping", "show"].map fun w => ⟨w.toList, w.toList⟩) := by
  refine ⟨by cbv, by cbv, by cbv, by cbv, by cbv, by cbv, by cbv⟩

/-- What is suggested is the same for every line in which the same words are
being typed, whatever filters and output stand behind them. Read back, a
suggestion is one statement of words and nothing else. -/
theorem parse_of_mem_suggest {line : Text} {ss : List Statement} {s : Statement}
    (hline : parse .input line = .ok ss) (hs : ss.getLast? = some s) :
    (∀ other ts t, parse .input other = .ok ts → ts.getLast? = some t →
      t.segments = s.segments →
      shell.suggest stack files other = shell.suggest stack files line) ∧
    ∀ suggested ∈ shell.suggest stack files line, ∃ front word,
      (front = s.segments.map Segment.text ∨ front = (s.segments.map Segment.text).dropLast) ∧
      word ≠ [] ∧ suggested = Text.spaced ((front ++ [word]).map Quoted.requote) ∧
      parse .input suggested =
        if (front ++ [word]).all Quoted.isOneLine then
          .ok [⟨(front ++ [word]).map .literal, [], none⟩]
        else .error (.scan .unterminatedString) := by
  constructor
  · intro other ts t hother ht hsegments
    apply suggest_eq_of_typed shell stack files hother hline
    rw [typed_of_getLast? ht, typed_of_getLast? hs, hsegments]
  · intro suggested hsuggested
    obtain ⟨front, word, hfront, hword, rfl⟩ :=
      exists_words_of_mem_suggest shell stack files hline hsuggested
    rw [typed_of_getLast? hs] at hfront
    exact ⟨front, word, hfront, hword, rfl, parse_spaced_requote (by simp)⟩

/-- A statement with a filter and an output behind another one, and a word that
is written with quotes. -/
theorem parse_of_mem_suggest_quoted :
    let said : Statement :=
      ⟨[.literal "say".toList, .placeholder (.numbered 1) (some "voice".toList)], [], none⟩
    let shell : Shell :=
      { Shell.empty .default with
        menus := ⟨[⟨"main".toList, [⟨⟨"say $1:voice".toList, said⟩, Navigation.leave⟩]⟩]⟩
        completers := ⟨[("voice".toList, fun _ _ => ["a b".toList])]⟩ }
    let saying : Statement :=
      ⟨[.literal "say".toList], [⟨"grep".toList, ["x".toList]⟩], some "f".toList⟩
    parse .input "go; say | grep x > f".toList = .ok [⟨[.literal "go".toList], [], none⟩, saying] ∧
      "say \"a b\"".toList ∈ shell.suggest .empty ⟨[], []⟩ "go; say | grep x > f".toList ∧
      ∃ front word, (front = saying.segments.map Segment.text ∨
          front = (saying.segments.map Segment.text).dropLast) ∧
        word ≠ [] ∧ "say \"a b\"".toList = Text.spaced ((front ++ [word]).map Quoted.requote) ∧
        parse .input "say \"a b\"".toList =
          if (front ++ [word]).all Quoted.isOneLine then
            .ok [⟨(front ++ [word]).map .literal, [], none⟩]
          else .error (.scan .unterminatedString) := by
  have hline : parse .input "go; say | grep x > f".toList =
      .ok [⟨[.literal "go".toList], [], none⟩,
        ⟨[.literal "say".toList], [⟨"grep".toList, ["x".toList]⟩], some "f".toList⟩] := by cbv
  intro said shell saying
  have hsuggest : shell.suggest .empty ⟨[], []⟩ "go; say | grep x > f".toList =
      ["say \"a b\"".toList] := by
    simp only [shell, said]
    cbv
  have hsuggested : "say \"a b\"".toList ∈
      shell.suggest .empty ⟨[], []⟩ "go; say | grep x > f".toList := by
    rw [hsuggest]
    exact List.mem_singleton_self _
  exact ⟨hline, hsuggested,
    (parse_of_mem_suggest shell .empty ⟨[], []⟩ hline rfl).2 _ hsuggested⟩

/-- A word is finished, and the filter and the output behind it are gone. -/
theorem suggest_forgets_filters :
    let shown : Statement := ⟨[.literal "show".toList], [], none⟩
    let shell : Shell :=
      { Shell.empty .default with
        menus := ⟨[⟨"main".toList, [⟨⟨"show".toList, shown⟩, Navigation.leave⟩]⟩]⟩ }
    (do
      let shell ← (Shell.empty .default).addMenu "main".toList
      shell.addCommand "main".toList "show".toList Navigation.leave) = .ok shell ∧
    parse .input "sh | grep x > f".toList =
      .ok [⟨[.literal "sh".toList], [⟨"grep".toList, ["x".toList]⟩], some "f".toList⟩] ∧
    shell.suggest .empty ⟨[], []⟩ "sh | grep x > f".toList = ["show".toList] ∧
    parse .input "show".toList = .ok [shown] := by
  refine ⟨by cbv, by cbv, by cbv, by cbv⟩

end Shell

end MenuLine
