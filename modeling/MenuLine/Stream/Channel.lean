/-!
# Channels

A channel carries values in order from a sender to a receiver and has room
for `capacity` of them. A sender waits while it is full and a receiver while
it is empty. Either end may go away: then sending fails, and so does
receiving once everything that was sent has been taken.
-/

namespace MenuLine

structure Channel (α : Type) where
  capacity : Nat
  /-- What has been sent and not been received, in order. -/
  items : List α
  senderOpen : Bool
  receiverOpen : Bool
deriving DecidableEq, Repr

namespace Channel

variable {α : Type}

def bounded (capacity : Nat) : Channel α := ⟨capacity, [], true, true⟩

/-- Gives `none` where the sender has to wait, and `some none` where nobody
will ever receive. -/
def send? (c : Channel α) (a : α) : Option (Option (Channel α)) :=
  if !c.receiverOpen then some none
  else if c.items.length < c.capacity then some (some { c with items := c.items ++ [a] })
  else none

/-- Gives `none` where the receiver has to wait, and `some none` where
nothing will ever come. -/
def receive? (c : Channel α) : Option (Option (α × Channel α)) :=
  match c.items with
  | a :: rest => some (some (a, { c with items := rest }))
  | [] => if c.senderOpen then none else some none

def dropSender (c : Channel α) : Channel α := { c with senderOpen := false }

def dropReceiver (c : Channel α) : Channel α := { c with receiverOpen := false }

/-- What can be sent at all is appended, and there is room for it. -/
theorem send?_eq_some_some_iff {c d : Channel α} {a : α} :
    c.send? a = some (some d) ↔
      c.receiverOpen = true ∧ c.items.length < c.capacity ∧
        d = { c with items := c.items ++ [a] } := by
  unfold send?
  cases c.receiverOpen
  · simp
  · by_cases h : c.items.length < c.capacity <;> simp [h, eq_comm]

theorem send?_eq_some_none_iff {c : Channel α} {a : α} :
    c.send? a = some none ↔ c.receiverOpen = false := by
  unfold send?
  cases c.receiverOpen
  · simp
  · by_cases h : c.items.length < c.capacity <;> simp [h]

/-- A sender waits while the channel is full, and only for a receiver. -/
theorem send?_eq_none_iff {c : Channel α} {a : α} :
    c.send? a = none ↔ c.receiverOpen = true ∧ c.capacity ≤ c.items.length := by
  unfold send?
  cases c.receiverOpen
  · simp
  · by_cases h : c.items.length < c.capacity
    · simp [h]
    · simp [h, Nat.not_lt.1 h]

theorem receive?_eq_some_some_iff {c d : Channel α} {a : α} :
    c.receive? = some (some (a, d)) ↔
      c.items = a :: d.items ∧ d = { c with items := d.items } := by
  unfold receive?
  cases hc : c.items with
  | nil => cases c.senderOpen <;> simp
  | cons b rest =>
      simp only [Option.some.injEq, Prod.mk.injEq, List.cons.injEq]
      constructor
      · rintro ⟨rfl, rfl⟩
        simp
      · rintro ⟨⟨rfl, hrest⟩, hd⟩
        exact ⟨rfl, by rw [hd, hrest]⟩

theorem receive?_eq_some_none_iff {c : Channel α} :
    c.receive? = some none ↔ c.items = [] ∧ c.senderOpen = false := by
  unfold receive?
  cases c.items with
  | nil => cases c.senderOpen <;> simp
  | cons a rest => simp

theorem receive?_eq_none_iff {c : Channel α} :
    c.receive? = none ↔ c.items = [] ∧ c.senderOpen = true := by
  unfold receive?
  cases c.items with
  | nil => cases c.senderOpen <;> simp
  | cons a rest => simp

end Channel

end MenuLine
