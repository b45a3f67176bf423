import MenuLine.Statement.Basic

/-!
# Choosing a command

A statement fits a description word by word. The tier says how: by literal
words alone, with numbered placeholders, or through the wildcard, which takes
every word from its position on. The best tier wins and the earlier command
wins a tie.
-/

namespace MenuLine

/-- How well a statement fits a description, the weakest first. -/
inductive MatchTier where
  | none
  | wildcard
  | substitution
  | exact
deriving DecidableEq, Repr

namespace MatchTier

def rank : MatchTier → Nat
  | none => 0
  | wildcard => 1
  | substitution => 2
  | exact => 3

instance : LT MatchTier := ⟨fun a b => a.rank < b.rank⟩

instance : LE MatchTier := ⟨fun a b => a.rank ≤ b.rank⟩

instance (a b : MatchTier) : Decidable (a < b) := inferInstanceAs (Decidable (a.rank < b.rank))

instance (a b : MatchTier) : Decidable (a ≤ b) := inferInstanceAs (Decidable (a.rank ≤ b.rank))

theorem rank_injective {a b : MatchTier} (h : a.rank = b.rank) : a = b := by
  cases a <;> cases b <;> simp_all [rank]

/-- The weaker of two tiers. -/
def weaker (a b : MatchTier) : MatchTier := if a < b then a else b

@[simp] theorem weaker_none (t : MatchTier) : weaker none t = none := by
  cases t <;> decide

end MatchTier

namespace Statement

def matchSegment (typed : Segment) : Segment → MatchTier
  | .placeholder .wildcard _ => .wildcard
  | .placeholder (.numbered _) _ => .substitution
  | .literal t => if typed = .literal t then .exact else .none

/-- The weakest tier of the words in front of a wildcard; a wildcard takes
the words that are left. -/
def matchSegments : List Segment → List Segment → MatchTier
  | u :: us, d :: ds =>
    if d.isWildcard then .wildcard
    else MatchTier.weaker (matchSegment u d) (matchSegments us ds)
  | _, _ => .exact

@[simp] theorem matchSegments_nil (ds : List Segment) : matchSegments [] ds = .exact := by
  cases ds <;> rfl

/-- A description wants a word for each of its segments, and only a wildcard
takes more. -/
def score (typed description : Statement) : MatchTier :=
  if typed.segments.length < description.segments.length then .none
  else if description.segments.length < typed.segments.length && !description.hasWildcard then .none
  else matchSegments typed.segments description.segments

/-- The position and the tier of the first description that no other one
beats. -/
def select (typed : Statement) : List Statement → Option (Nat × MatchTier)
  | [] => none
  | d :: ds =>
    let tier := score typed d
    match select typed ds with
    | some (i, best) => if tier < best then some (i + 1, best) else some (0, tier)
    | none => if tier = .none then none else some (0, tier)

@[simp] theorem select_nil (typed : Statement) : select typed [] = none := rfl

/-- The words at numbered placeholders, each with its number, and the words
from the wildcard on. -/
def captures : List Segment → List Segment → List (Nat × Text) × List Text
  | _, [] => ([], [])
  | us, .literal _ :: ds => captures us.tail ds
  | us, .placeholder .wildcard _ :: _ => ([], us.map Segment.text)
  | us, .placeholder (.numbered n) _ :: ds =>
    let (numbered, rest) := captures us.tail ds
    ((us.head?.map fun u => (n, u.text)).toList ++ numbered, rest)

/-- The arguments for the handler: the words at numbered placeholders in the
order of their numbers, then the words that the wildcard takes. -/
def arguments (typed description : Statement) : List Text :=
  let (numbered, rest) := captures typed.segments description.segments
  (numbered.mergeSort fun a b => a.1 ≤ b.1).map Prod.snd ++ rest

end Statement

end MenuLine
