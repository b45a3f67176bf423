import Mathlib.Data.Nat.Digits.Defs
import MenuLine.Statement.Grammar

/-!
# The grammar of a description

The grammar of the description of a command, stated on tokens like that of user
input. With `P` for a placeholder, `C` for the name of a completer and the
other letters as there it is

    description = LC* W (W | LC | P [C])* [SEP LC*]

where a placeholder is a star or a number of 32 bits and stands for the same
slot at most once.
-/

namespace MenuLine

namespace Grammar

def digitValue (c : Char) : Nat := c.toNat - '0'.toNat

/-- The number that is written with these digits. -/
def numeral (digits : Text) : Nat := Nat.ofDigits 10 (digits.reverse.map digitValue)

/-- The text of a placeholder and the slot that it stands for. -/
inductive Names : Text → Slot → Prop where
  | wildcard : Names ['*'] .wildcard
  | numbered {digits : Text} (hne : digits ≠ []) (hdigits : ∀ c ∈ digits, c.isDigit = true)
      (hsize : numeral digits < UInt32.size) : Names digits (.numbered (numeral digits))

/-- An empty name stands for no completer. -/
def completer? (name : Text) : Option Text := if name.isEmpty then none else some name

/-- `(W | LC | P [C])*` -/
inductive Segments : List Token → List Segment → Prop where
  | nil : Segments [] []
  | word {t ts w ss} (h : t.word? = some w) (hsegments : Segments ts ss) :
      Segments (t :: ts) (.literal w :: ss)
  | continuation {t ts ss} (h : t.kind = .continuation) (hsegments : Segments ts ss) :
      Segments (t :: ts) ss
  | slot {t ts slot ss} (hkind : t.kind = .placeholder) (hslot : Names t.text slot)
      (hsegments : Segments ts ss) : Segments (t :: ts) (.placeholder slot none :: ss)
  | completed {t name ts slot ss} (hkind : t.kind = .placeholder) (hslot : Names t.text slot)
      (hname : name.kind = .completionType) (hsegments : Segments ts ss) :
      Segments (t :: name :: ts) (.placeholder slot (completer? name.text) :: ss)

/-- `[SEP LC*]` -/
inductive Closing : List Token → Prop where
  | nil : Closing []
  | separator {sep cs} (hsep : sep.kind = .separator) (hcs : Continuations cs) :
      Closing (sep :: cs)

/-- No two placeholders stand for the same slot. -/
def Distinct (ss : List Segment) : Prop := (ss.filterMap Segment.slot?).Nodup

/-- `LC* W (W | LC | P [C])* [SEP LC*]` -/
inductive IsDescription : List Token → List Segment → Prop where
  | mk {cs t w ts ss us} (hcs : Continuations cs) (hfirst : t.word? = some w)
      (hsegments : Segments ts ss) (hclosing : Closing us) (hdistinct : Distinct ss) :
      IsDescription (cs ++ t :: (ts ++ us)) (.literal w :: ss)

end Grammar

end MenuLine
