import MenuLine.Toml.Item

/-!
# Numbers, dates and truth values

The values that are written without quotes or brackets. Integers have 64
bits; a float that is too large for its format is refused.
-/

namespace MenuLine

namespace Toml

/-- Digits with single underscores between them. -/
def digitsOf (isDigit : Char → Bool) : Text → Option Text
  | [] => none
  | [c] => if isDigit c then some [c] else none
  | c :: '_' :: r => if isDigit c then (digitsOf isDigit r).map (c :: ·) else none
  | c :: r => if isDigit c then (digitsOf isDigit r).map (c :: ·) else none

def digitValue (c : Char) : Nat :=
  if c.isDigit then c.toNat - 48 else if c.isLower then c.toNat - 87 else c.toNat - 55

def valueOf (base : Nat) (digits : Text) : Nat :=
  digits.foldl (fun n c => base * n + digitValue c) 0

def isHex (c : Char) : Bool := c.isDigit || ('a' ≤ c && c ≤ 'f') || ('A' ≤ c && c ≤ 'F')

/-- Digits of a decimal number, which has no needless zeros in front. -/
def decimalOf (t : Text) : Option Text :=
  (digitsOf Char.isDigit t).filter fun ds => ds.length == 1 || ds.head? != some '0'

def splitSign : Text → Bool × Text
  | '+' :: r => (false, r)
  | '-' :: r => (true, r)
  | t => (false, t)

/-- Integers lie from minus this to below it. -/
def integerBound : Nat := 0x8000000000000000

def based (base : Nat) (isDigit : Char → Bool) (t : Text) : Option Int :=
  ((digitsOf isDigit t).map (valueOf base)).bind fun n =>
    if n < integerBound then some (n : Int) else none

def integer? (t : Text) : Option Int :=
  match t with
  | '0' :: 'x' :: r => based 16 isHex r
  | '0' :: 'o' :: r => based 8 (fun c => c.isDigit && c < '8') r
  | '0' :: 'b' :: r => based 2 (fun c => c == '0' || c == '1') r
  | _ =>
    let (negative, r) := splitSign t
    ((decimalOf r).map (valueOf 10)).bind fun n =>
      if negative then if n ≤ integerBound then some (-(n : Int)) else none
      else if n < integerBound then some (n : Int) else none

/-- Whether digits with `scale` of them after the point, times a power of ten,
round to infinity in binary64. -/
def overflows (digits : Text) (scale : Nat) (exponent : Int) : Bool :=
  let n := valueOf 10 digits
  let shift := exponent - (scale : Int)
  let places := (Text.ofNat n).length + shift
  if n = 0 || places < 300 then false
  else if 400 < places then true
  else
    let limit := Nat.pow 2 1024 - Nat.pow 2 970
    if 0 ≤ shift then limit ≤ n * Nat.pow 10 shift.toNat else limit * Nat.pow 10 (-shift).toNat ≤ n

def exponent? (t : Text) : Option Int :=
  let (negative, r) := splitSign t
  (digitsOf Char.isDigit r).map fun ds =>
    if negative then -(valueOf 10 ds : Int) else (valueOf 10 ds : Int)

def isExponentMark (c : Char) : Bool := c == 'e' || c == 'E'

/-- A point or an exponent makes a float. -/
def isFloat (t : Text) : Bool :=
  let (negative, r) := splitSign t
  if r = "inf".toList || r = "nan".toList then true
  else
    let (mantissa, marked) := r.span fun c => !isExponentMark c
    let (whole, fraction) := mantissa.span (· != '.')
    let exponent := match marked with
      | [] => some 0
      | _ :: e => exponent? e
    let fractionDigits := match fraction with
      | [] => some []
      | _ :: f => digitsOf Char.isDigit f
    match decimalOf whole, fractionDigits, exponent with
    | some ds, some fs, some e =>
      (!marked.isEmpty || !fraction.isEmpty) && (negative || !overflows (ds ++ fs) fs.length e)
    | _, _, _ => false

def number? (t : Text) : Option Nat :=
  if t.all Char.isDigit then some (valueOf 10 t) else none

def isNumberIn (t : Text) (lo hi : Nat) : Bool :=
  match number? t with
  | some n => lo ≤ n && n ≤ hi
  | none => false

def isLeapYear (y : Nat) : Bool := y % 4 == 0 && (y % 100 != 0 || y % 400 == 0)

def daysIn (year month : Nat) : Nat :=
  if month = 2 then if isLeapYear year then 29 else 28
  else if [4, 6, 9, 11].contains month then 30
  else 31

def isDate : Text → Bool
  | [a, b, c, d, '-', e, f, '-', g, h] =>
    match number? [a, b, c, d], number? [e, f] with
    | some year, some month =>
      1 ≤ month && month ≤ 12 && isNumberIn [g, h] 1 (daysIn year month)
    | _, _ => false
  | _ => false

def isFraction : Text → Bool
  | [] => true
  | '.' :: r => !r.isEmpty && r.all Char.isDigit
  | _ => false

/-- Hours, minutes and seconds, perhaps with a fraction. -/
def isTime : Text → Bool
  | a :: b :: ':' :: c :: d :: ':' :: e :: f :: r =>
    isNumberIn [a, b] 0 23 && isNumberIn [c, d] 0 59 && isNumberIn [e, f] 0 60 && isFraction r
  | _ => false

def isOffset : Text → Bool
  | ['Z'] | ['z'] => true
  | [sign, a, b, ':', c, d] =>
    (sign == '+' || sign == '-') && isNumberIn [a, b] 0 23 && isNumberIn [c, d] 0 59
  | _ => false

/-- A time, perhaps with an offset. -/
def isTimeWithOffset (t : Text) : Bool :=
  let (time, offset) := t.span fun c => c.isDigit || c == ':' || c == '.'
  isTime time && (offset.isEmpty || isOffset offset)

/-- A date, a time, or both with a letter between them. -/
def isMoment (t : Text) : Bool :=
  isDate t || isTime t ||
    (isDate (t.take 10) && ((t.drop 10).head? == some 'T' || (t.drop 10).head? == some 't') &&
      isTimeWithOffset (t.drop 11))

def scalar? (t : Text) : Option Item :=
  if t = "true".toList then some (.boolean true)
  else if t = "false".toList then some (.boolean false)
  else match integer? t with
    | some n => some (.integer n)
    | none => if isFloat t then some .float else if isMoment t then some .time else none

end Toml

end MenuLine
