import MenuLine.Navigation
import MenuLine.Proofs.SuggestionList

/-!
# The lines that a shell suggests

A shell suggests the first lines of the list that its current menu gives for the
statement being typed. None of them is empty or comes twice. They are in the
order of the words that they end in, and these words may be written with
quotes: only if none of them needs quotes are the lines in order themselves.
The main statement is `Shell.suggest_eq_map_words`.
-/

namespace MenuLine

theorem Text.Before.append_left {t u : Text} (h : Before t u) (front : Text) :
    Before (front ++ t) (front ++ u) := by
  unfold Before
  rw [bytes_append, bytes_append]
  exact List.Lex.append_left _ h _

namespace Quoted

theorem requote_ne_nil (word : Text) : requote word ≠ [] := by
  unfold requote
  split
  · next hplain => exact (isPlain_iff.1 hplain).1
  · exact List.cons_ne_nil _ _

end Quoted

namespace Completion

theorem lineOf_ne_nil (kept : List Text) (word : Text) : lineOf kept word ≠ [] := by
  intro h
  exact Quoted.requote_ne_nil word (List.append_eq_nil_iff.1 h).2

/-- Lines whose last words stand there as they are keep the order of these words. -/
theorem pairwise_lineOf {words : List Text} (hwords : words.Pairwise Text.Before)
    (hplain : ∀ w ∈ words, Quoted.isPlain w = true) (kept : List Text) :
    (words.map (lineOf kept)).Pairwise Text.Before := by
  rw [List.pairwise_map]
  apply hwords.imp_of_mem
  intro w v hw hv hbefore
  rw [lineOf, lineOf, Quoted.requote_of_isPlain (hplain w hw),
    Quoted.requote_of_isPlain (hplain v hv)]
  exact hbefore.append_left _

end Completion

namespace Shell

open Completion

variable (shell : Shell) (stack : MenuStack) (files : FileTree) (line : Text)

/-- Some lines are left out if the settings allow only a number of them. -/
theorem exists_capped_eq_map (kept words : List Text) (hwords : words.Pairwise Text.Before)
    (hne : ∀ w ∈ words, w ≠ []) :
    ∃ first : List Text, shell.capped (words.map (lineOf kept)) = first.map (lineOf kept) ∧
      first.Pairwise Text.Before ∧ ∀ w ∈ first, w ≠ [] := by
  unfold capped
  split
  · exact ⟨words, rfl, hwords, hne⟩
  · refine ⟨words.take shell.config.maxSuggestions, by rw [List.map_take], ?_, ?_⟩
    · exact hwords.sublist (List.take_sublist _ _)
    · intro w hw
      exact hne w (List.mem_of_mem_take hw)

theorem exists_suggest_eq_map_words :
    ∃ kept words : List Text, shell.suggest stack files line = words.map (lineOf kept) ∧
      words.Pairwise Text.Before ∧ ∀ w ∈ words, w ≠ [] := by
  unfold suggest
  split
  · next statements menu _ _ =>
      obtain ⟨words, hproposed, hwords, hsuggest⟩ := exists_suggest_eq_map
        (shell.completer? files) ((statements.getLast?.map Statement.segments).getD [])
        (shell.descriptions menu)
      have hne : ∀ w ∈ words, w ≠ [] := fun w hw => ((hproposed w).1 hw).nonempty
      dsimp only
      rw [hsuggest]
      obtain ⟨first, hfirst⟩ := exists_capped_eq_map shell _ words hwords hne
      exact ⟨_, first, hfirst⟩
  · exact ⟨[], [], rfl, .nil, by simp⟩

/-- What a shell suggests for a half-typed line: lines that keep the same words
and end in different ones, in the order of the bytes of these last words. No
line is empty and none comes twice. The lines are in the order of their own
bytes if no last word needs quotes. -/
theorem suggest_eq_map_words :
    ∃ kept words : List Text, shell.suggest stack files line = words.map (lineOf kept) ∧
      words.Pairwise Text.Before ∧
      (∀ suggested ∈ shell.suggest stack files line, suggested ≠ []) ∧
      (shell.suggest stack files line).Nodup ∧
      ((∀ w ∈ words, Quoted.isPlain w = true) →
        (shell.suggest stack files line).Pairwise Text.Before) := by
  obtain ⟨kept, words, hsuggest, hwords, -⟩ :=
    exists_suggest_eq_map_words shell stack files line
  rw [hsuggest]
  refine ⟨kept, words, rfl, hwords, ?_, ?_, fun hplain => pairwise_lineOf hwords hplain kept⟩
  · intro suggested hsuggested
    obtain ⟨w, -, rfl⟩ := List.mem_map.1 hsuggested
    exact lineOf_ne_nil kept w
  · have hnodup : words.Nodup := by
      apply hwords.imp
      rintro t u h rfl
      exact h.asymm h
    exact hnodup.map fun _ _ => lineOf_injective

/-- A word that needs quotes: it comes behind another one and is written with a
character that comes before it. -/
theorem suggest_not_pairwise_before :
    let said : Statement :=
      ⟨[.literal "say".toList, .placeholder (.numbered 1) (some "voice".toList)], [], none⟩
    let voice : FileTree → Completer := fun _ _ => ["Z".toList, "a b".toList]
    let shell : Shell :=
      { Shell.empty .default with
        menus := ⟨[⟨"main".toList, [⟨⟨"say $1:voice".toList, said⟩, Navigation.leave⟩]⟩]⟩
        completers := ⟨[("voice".toList, voice)]⟩ }
    (do
      let shell ← (Shell.empty .default).addMenu "main".toList
      let shell ← shell.addCommand "main".toList "say $1:voice".toList Navigation.leave
      shell.addCompleter "voice".toList voice) = .ok shell ∧
    shell.suggest .empty ⟨[], []⟩ "say".toList = ["say Z".toList, "say \"a b\"".toList] ∧
      Text.Before "say \"a b\"".toList "say Z".toList := by
  refine ⟨by cbv, by cbv, Text.before_of_le (by decide) (by decide)⟩

end Shell

end MenuLine
