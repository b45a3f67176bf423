import MenuLine.Text.Basic
import Mathlib.Data.List.Lex

/-!
# The order of the bytes of texts

Texts are compared character by character. In UTF-8 a greater character has
greater bytes, and no character is the beginning of another, so the bytes of
two texts are in the same order as the texts: `Text.before_of_le`.
-/

namespace MenuLine

namespace Text

theorem lex_cons_ofNat {m n : Nat} {s t : Bytes} (hn : n < 256) (hle : m ≤ n)
    (hrest : m = n → List.Lex (· < ·) s t) :
    List.Lex (· < ·) (UInt8.ofNat m :: s) (UInt8.ofNat n :: t) := by
  by_cases h : m = n
  · subst h
    exact .cons (hrest rfl)
  · apply List.Lex.rel
    rw [UInt8.lt_iff_toNat_lt, UInt8.toNat_ofNat', UInt8.toNat_ofNat']
    omega

theorem lex_cons_of_lt {m n : Nat} {s t : Bytes} (hn : n < 256) (h : m < n) :
    List.Lex (· < ·) (UInt8.ofNat m :: s) (UInt8.ofNat n :: t) :=
  lex_cons_ofNat hn (Nat.le_of_lt h) fun heq => absurd heq (Nat.ne_of_lt h)

/-- The first bytes of two characters of different lengths are in order; those
of two characters of one length are digits of their numbers. -/
theorem lex_utf8EncodeChar {c d : Char} (h : c < d) (s t : Bytes) :
    List.Lex (· < ·) (String.utf8EncodeChar c ++ s) (String.utf8EncodeChar d ++ t) := by
  have hcd : c.val.toNat < d.val.toNat := h
  have hd : d.val.toNat < 1114112 := by
    rcases d.valid with hd | ⟨-, hd⟩
    · exact Nat.lt_trans hd (by decide)
    · exact hd
  unfold String.utf8EncodeChar
  generalize c.val.toNat = m at hcd
  generalize d.val.toNat = n at hcd hd
  dsimp only
  -- by the number of bytes of the greater character; the smaller has as many or fewer
  by_cases hn₁ : n ≤ 127
  · rw [if_pos hn₁, if_pos (by omega)]
    exact lex_cons_of_lt (by omega) (by omega)
  rw [if_neg hn₁]
  by_cases hm₁ : m ≤ 127
  · rw [if_pos hm₁]
    split
    · exact lex_cons_of_lt (by omega) (by omega)
    · split
      · exact lex_cons_of_lt (by omega) (by omega)
      · exact lex_cons_of_lt (by omega) (by omega)
  rw [if_neg hm₁]
  by_cases hn₂ : n ≤ 2047
  · rw [if_pos hn₂, if_pos (by omega)]
    refine lex_cons_ofNat (by omega) (by omega) fun h₁ => ?_
    exact lex_cons_of_lt (by omega) (by omega)
  rw [if_neg hn₂]
  by_cases hm₂ : m ≤ 2047
  · rw [if_pos hm₂]
    split
    · exact lex_cons_of_lt (by omega) (by omega)
    · exact lex_cons_of_lt (by omega) (by omega)
  rw [if_neg hm₂]
  by_cases hn₃ : n ≤ 65535
  · rw [if_pos hn₃, if_pos (by omega)]
    refine lex_cons_ofNat (by omega) (by omega) fun h₁ => ?_
    refine lex_cons_ofNat (by omega) (by omega) fun h₂ => ?_
    exact lex_cons_of_lt (by omega) (by omega)
  rw [if_neg hn₃]
  by_cases hm₃ : m ≤ 65535
  · rw [if_pos hm₃]
    exact lex_cons_of_lt (by omega) (by omega)
  · rw [if_neg hm₃]
    refine lex_cons_ofNat (by omega) (by omega) fun h₁ => ?_
    refine lex_cons_ofNat (by omega) (by omega) fun h₂ => ?_
    refine lex_cons_ofNat (by omega) (by omega) fun h₃ => ?_
    exact lex_cons_of_lt (by omega) (by omega)

/-- The order of two texts by their bytes. -/
def Before (t u : Text) : Prop := List.Lex (· < ·) t.bytes u.bytes

theorem Before.asymm {t u : Text} (h : Before t u) : ¬ Before u t :=
  List.lex_asymm (fun h => UInt8.lt_asymm h) h

theorem before_of_lex {t u : Text} (h : List.Lex (· < ·) t u) : Before t u := by
  unfold Before
  induction h with
  | @nil c u =>
      have hsize : 0 < (String.utf8EncodeChar c).length := by
        rw [String.length_utf8EncodeChar]
        exact Char.utf8Size_pos c
      rw [bytes_nil, bytes_cons]
      obtain ⟨b, bs, hb⟩ := List.exists_cons_of_length_pos hsize
      rw [hb]
      exact .nil
  | @cons c t u h ih =>
      rw [bytes_cons, bytes_cons]
      exact List.Lex.append_left _ ih _
  | rel h => exact lex_utf8EncodeChar h _ _

theorem before_of_le {t u : Text} (h : le t u = true) (hne : t ≠ u) : Before t u := by
  have hnot : ¬ List.Lex (· < ·) u t := by simpa [le] using h
  apply before_of_lex
  apply Classical.byContradiction
  intro hlex
  exact hne (Std.Trichotomous.trichotomous t u hlex hnot)

end Text

end MenuLine
