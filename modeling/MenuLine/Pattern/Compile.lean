import MenuLine.Pattern.Automaton
import MenuLine.Pattern.Meaning

/-!
# Patterns that can be used

A pattern is refused if something is wrong with it or, failing that, if it is
too large.
-/

namespace MenuLine

namespace Pattern

inductive Refusal where
  | faulty (fault : Fault)
  | tooLarge
deriving DecidableEq, Repr

namespace Refusal

def report (pattern : Text) : Refusal → Text
  | faulty fault => fault.report pattern
  | tooLarge =>
    "Compiled regex exceeds size limit of ".toList ++ Text.ofNat Tally.limit ++ " bytes.".toList

end Refusal

/-- The expression of a pattern, or why there is none. -/
def compile (caseInsensitive : Bool) (pattern : Text) : Except Refusal Expr :=
  match (read pattern).bind fun node => node.meaning (.start caseInsensitive) with
  | .error fault => .error (.faulty fault)
  | .ok e => if e.isTooLarge then .error .tooLarge else .ok e

theorem compile_eq_ok_iff {caseInsensitive : Bool} {pattern : Text} {e : Expr} :
    compile caseInsensitive pattern = .ok e ↔
      ((read pattern).bind fun node => node.meaning (.start caseInsensitive)) = .ok e ∧
        e.isTooLarge = false := by
  unfold compile
  split
  · simp_all
  · rename_i e' h
    by_cases hl : e'.isTooLarge
    · simp [h, hl]
      rintro rfl
      simpa using hl
    · simp [h, hl]
      rintro rfl
      simpa using hl

end Pattern

end MenuLine
