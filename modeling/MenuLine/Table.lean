import MenuLine.Text.Basic

/-!
# Named things

A table holds completers or filters by name, each name once, in the order of
registration.
-/

namespace MenuLine

structure Table (α : Type u) where
  entries : List (Text × α)

namespace Table

def empty : Table α := ⟨[]⟩

/-- In the order of registration. -/
def names (t : Table α) : List Text := t.entries.map Prod.fst

def find? (t : Table α) (name : Text) : Option α :=
  (t.entries.find? fun e => e.1 == name).map Prod.snd

def contains (t : Table α) (name : Text) : Bool := t.entries.any fun e => e.1 == name

@[simp] theorem find?_empty (name : Text) : (empty : Table α).find? name = none := rfl

@[simp] theorem contains_empty (name : Text) : (empty : Table α).contains name = false := rfl

theorem contains_iff {t : Table α} {name : Text} : t.contains name = true ↔ name ∈ t.names := by
  simp [contains, names]

/-- A name that is taken is refused. -/
def insert? (t : Table α) (name : Text) (value : α) : Option (Table α) :=
  if t.contains name then none else some ⟨t.entries ++ [(name, value)]⟩

variable {t : Table α} {name : Text}

theorem insert?_of_mem (h : name ∈ t.names) (value : α) : t.insert? name value = none :=
  if_pos (contains_iff.2 h)

theorem insert?_of_not_mem (h : name ∉ t.names) (value : α) :
    t.insert? name value = some ⟨t.entries ++ [(name, value)]⟩ :=
  if_neg (mt contains_iff.1 h)

end Table

end MenuLine
