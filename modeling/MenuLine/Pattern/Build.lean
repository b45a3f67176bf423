import MenuLine.Pattern.Expr

/-!
# Putting expressions together

Expressions are kept in a plain form: neighbouring literals are one literal,
alternatives of one character each are one set, a part that all alternatives
begin with stands before them, and what is repeated once is not repeated at
all. The size of a pattern depends on this form.
-/

namespace MenuLine

namespace Pattern

namespace Expr

/-- A set of one character is a literal. -/
def ofSet (s : CharSet) : Expr :=
  match s.ranges with
  | [(lo, hi)] => if lo = hi then literal [Char.ofNat lo] else set s
  | _ => set s

def parts : Expr → List Expr
  | empty => []
  | seq a b => a :: b.parts
  | e => [e]

def branches : Expr → List Expr
  | alt a b => a :: b.branches
  | e => [e]

def ofParts : List Expr → Expr
  | [] => empty
  | [e] => e
  | e :: es => seq e (ofParts es)

/-- The alternatives; no alternative at all matches nothing. -/
def ofBranches : List Expr → Expr
  | [] => set .empty
  | [e] => e
  | e :: es => alt e (ofBranches es)

@[simp] theorem parts_empty : parts empty = [] := rfl

@[simp] theorem branches_alt (a b : Expr) : branches (alt a b) = a :: b.branches := rfl

def joinLiterals : List Expr → List Expr
  | [] => []
  | e :: es =>
    match e, joinLiterals es with
    | literal t, literal u :: rest => literal (t ++ u) :: rest
    | e, rest => e :: rest

def concat (es : List Expr) : Expr := ofParts (joinLiterals (es.flatMap parts))

/-- The characters of an expression that always matches exactly one. -/
def chars? : Expr → Option CharSet
  | literal [c] => some (.single c)
  | set s => some s
  | _ => none

def isLiteral : Expr → Bool
  | literal _ => true
  | _ => false

def commonPrefix : List Expr → List Expr → List Expr
  | e :: es, e' :: es' => if e = e' then e :: commonPrefix es es' else []
  | _, _ => []

/-- The parts with which all alternatives begin. An alternative of one part
has none in common with others. -/
def sharedParts (es : List Expr) : List Expr :=
  match es.map fun e => if e.parts.length < 2 then [] else e.parts with
  | [] => []
  | ps :: pss => pss.foldl commonPrefix ps

/-- `fuel` bounds how often a common part can be taken out. -/
def choice : (fuel : Nat) → List Expr → Expr
  | 0, es => ofBranches es
  | fuel + 1, es =>
    let es := es.flatMap branches
    if es.length < 2 then ofBranches es
    else match es.mapM chars? with
    | some sets => ofSet (sets.foldl CharSet.union .empty)
    | none =>
      match sharedParts es with
      | [] => ofBranches es
      | shared =>
        let rests := es.map fun e => concat (e.parts.drop shared.length)
        concat (shared ++ [choice fuel rests])

def size : Expr → Nat
  | seq a b | alt a b => a.size + b.size + 1
  | repeated e _ _ | group _ e => e.size + 1
  | _ => 1

def oneOf (es : List Expr) : Expr := choice (es.foldl (fun n e => n + e.size) 1) es

/-- The least number of bytes that a match takes, unless nothing matches. -/
def minLength : Expr → Option Nat
  | empty | when _ => some 0
  | literal t => some (Text.bytes t).length
  | set s => s.ranges.head?.map fun r => (Char.ofNat r.1).utf8Size
  | seq a b => a.minLength.bind fun m => b.minLength.map (m + ·)
  | alt a b => a.minLength.bind fun m => b.minLength.map (min m)
  | repeated e least _ => e.minLength.map (least * ·)
  | group _ e => e.minLength

/-- The largest number of bytes that a match takes, if there is one. -/
def maxLength : Expr → Option Nat
  | empty | when _ => some 0
  | literal t => some (Text.bytes t).length
  | set s => s.ranges.getLast?.map fun r => (Char.ofNat r.2).utf8Size
  | seq a b => a.maxLength.bind fun m => b.maxLength.map (m + ·)
  | alt a b => a.maxLength.bind fun m => b.maxLength.map (max m)
  | repeated e _ most => most.bind fun n => e.maxLength.map (n * ·)
  | group _ e => e.maxLength

/-- What takes no characters need not be repeated. -/
def times (e : Expr) (least : Nat) (most : Option Nat) : Expr :=
  let (least, most) :=
    if e.maxLength = some 0 then (min least 1, some (min (most.getD 1) 1)) else (least, most)
  match most with
  | some 0 => empty
  | some 1 => if least = 1 then e else repeated e least most
  | _ => repeated e least most

end Expr

end Pattern

end MenuLine
