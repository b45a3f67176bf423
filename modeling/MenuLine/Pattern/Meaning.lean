import MenuLine.Pattern.Build
import MenuLine.Pattern.Reader
import MenuLine.Unicode.Age
import MenuLine.Unicode.CaseFolding
import MenuLine.Unicode.GraphemeBreak
import MenuLine.Unicode.PropertyName
import MenuLine.Unicode.WordBreak

/-!
# The meaning of a pattern

Flags hold from where they are set to the end of the group around them. Case
is folded before a set is negated. Without Unicode, sets hold characters of
ASCII alone, so that no set may be negated: it would hold parts of characters.
-/

namespace MenuLine

namespace Pattern

structure Flags where
  caseInsensitive : Bool
  multiLine : Bool
  dotMatchesNewline : Bool
  unicode : Bool
  carriageReturn : Bool
deriving DecidableEq, Repr

namespace Flags

def start (caseInsensitive : Bool) : Flags := ⟨caseInsensitive, false, false, true, false⟩

def change (f : Flags) (c : FlagChange) : Flags :=
  match c.flag with
  | .caseInsensitive => { f with caseInsensitive := c.on }
  | .multiLine => { f with multiLine := c.on }
  | .dotMatchesNewline => { f with dotMatchesNewline := c.on }
  | .unicode => { f with unicode := c.on }
  | .carriageReturn => { f with carriageReturn := c.on }
  | .swapGreed | .ignoreSpace => f

def changeAll (f : Flags) (cs : List FlagChange) : Flags := cs.foldl change f

def fold (f : Flags) (s : CharSet) : CharSet :=
  if !f.caseInsensitive then s
  else if f.unicode then Unicode.foldCase s
  else Unicode.foldAsciiCase s

/-- Folds the case and then negates. -/
def settle (f : Flags) (negated : Bool) (span : Span) (s : CharSet) : Except Fault CharSet :=
  if !negated then .ok (f.fold s)
  else if f.unicode then .ok (f.fold s).compl
  else .error ⟨.notUtf8, span, none⟩

end Flags

namespace AsciiClass

def chars : AsciiClass → CharSet
  | alnum => ⟨[(0x30, 0x39), (0x41, 0x5A), (0x61, 0x7A)]⟩
  | alpha => ⟨[(0x41, 0x5A), (0x61, 0x7A)]⟩
  | ascii => ⟨[(0, 0x7F)]⟩
  | blank => ⟨[(0x9, 0x9), (0x20, 0x20)]⟩
  | cntrl => ⟨[(0, 0x1F), (0x7F, 0x7F)]⟩
  | digit => ⟨[(0x30, 0x39)]⟩
  | graph => ⟨[(0x21, 0x7E)]⟩
  | lower => ⟨[(0x61, 0x7A)]⟩
  | print => ⟨[(0x20, 0x7E)]⟩
  | punct => ⟨[(0x21, 0x2F), (0x3A, 0x40), (0x5B, 0x60), (0x7B, 0x7E)]⟩
  | space => ⟨[(0x9, 0xD), (0x20, 0x20)]⟩
  | upper => ⟨[(0x41, 0x5A)]⟩
  | word => ⟨[(0x30, 0x39), (0x41, 0x5A), (0x5F, 0x5F), (0x61, 0x7A)]⟩
  | xdigit => ⟨[(0x30, 0x39), (0x41, 0x46), (0x61, 0x66)]⟩

end AsciiClass

namespace Shorthand

def chars (unicode : Bool) : Shorthand → CharSet
  | digit => if unicode then Unicode.decimalDigit else AsciiClass.digit.chars
  | space => if unicode then Unicode.whiteSpace else AsciiClass.space.chars
  | word => if unicode then Unicode.wordCharacters else AsciiClass.word.chars

def meaning (f : Flags) (c : Shorthand) (negated : Bool) (span : Span) : Except Fault CharSet :=
  if !negated then .ok (c.chars f.unicode)
  else if f.unicode then .ok (c.chars true).compl
  else .error ⟨.notUtf8, span, none⟩

end Shorthand

namespace Query

/-- Names are compared without case, blanks, hyphens, underscores and a
leading `is`. -/
def plainName (name : Text) : Text :=
  let isPrefixed := ((name.take 2).map Char.toLower) == ['i', 's']
  let plain := ((if isPrefixed then name.drop 2 else name).filter fun c =>
    c != ' ' && c != '_' && c != '-' && c.toNat < 128).map Char.toLower
  if isPrefixed && plain == ['c'] then ['i', 's', 'c'] else plain

/-- Three names of categories are names of properties as well. -/
def isCategoryFirst (name : Text) : Bool :=
  name == ['c', 'f'] || name == ['s', 'c'] || name == ['l', 'c']

/-- The characters for which a property has a value. -/
def valued? (property value : Text) : Option CharSet :=
  let is (names : List String) : Bool := names.any fun n => n.toList == property
  if is ["gc", "generalcategory"] then Unicode.category? value
  else if is ["sc", "script"] then Unicode.script? value
  else if is ["scx", "scriptextensions"] then Unicode.scriptExtensions? value
  else if is ["age"] then Unicode.age? value
  else if is ["gcb", "graphemeclusterbreak"] then Unicode.graphemeBreak? value
  else if is ["wb", "wordbreak"] then Unicode.wordBreak? value
  else if is ["sb", "sentencebreak"] then Unicode.sentenceBreak? value
  else none

def set? (q : Query) : Except Cause CharSet :=
  match q with
  | named name =>
    let name := plainName name
    let property := if isCategoryFirst name then none else Unicode.property? name
    match property <|> Unicode.category? name <|> Unicode.script? name with
    | some set => .ok set
    | none =>
      .error (if Unicode.isVacantName name then .propertyValueNotFound else .propertyNotFound)
  | valued name value =>
    match valued? (plainName name) (plainName value) with
    | some set => .ok set
    | none =>
      .error (if Unicode.isPropertyName (plainName name) then .propertyValueNotFound
        else .propertyNotFound)

def meaning (f : Flags) (q : Query) (negated : Bool) (span : Span) : Except Fault CharSet :=
  if !f.unicode then .error ⟨.unicodeNotAllowed, span, none⟩
  else match q.set? with
    | .error cause => .error ⟨cause, span, none⟩
    | .ok set => f.settle negated span set

end Query

/-- A character that stands in a pattern by itself. -/
def Literal.meaning (f : Flags) (l : Literal) : Except Fault CharSet :=
  if !f.unicode && l.isByte && 0x7F < l.char.toNat then .error ⟨.notUtf8, l.span, none⟩
  else .ok (f.fold (.single l.char))

/-- A character in a set, which has to fit into a byte without Unicode. -/
def Literal.inSet (f : Flags) (l : Literal) : Except Fault Nat :=
  if f.unicode || l.char.toNat ≤ 0x7F then .ok l.char.toNat
  else .error ⟨if l.isByte then .notUtf8 else .unicodeNotAllowed, l.span, none⟩

namespace SetNode

def meaning (f : Flags) : SetNode → Except Fault CharSet
  | empty _ => .ok .empty
  | literal l => (l.inSet f).map fun n => ⟨[(n, n)]⟩
  | range lo hi => (lo.inSet f).bind fun m => (hi.inSet f).map fun n => ⟨[(m, n)]⟩
  | ascii name negated span => f.settle negated span name.chars
  | shorthand name negated span => name.meaning f negated span
  | property query negated span => query.meaning f negated span
  | nested set negated span => (meaning f set).bind (f.settle negated span)
  | union a b => (meaning f a).bind fun s => (meaning f b).map s.union
  | several items => meaning f items
  | op kind a b =>
    (meaning f a).bind fun s => (meaning f b).map fun t =>
      match kind with
      | .intersection => (f.fold s).inter (f.fold t)
      | .difference => (f.fold s).diff (f.fold t)
      | .symmetricDifference => (f.fold s).symmDiff (f.fold t)

end SetNode

namespace Anchor

def meaning (f : Flags) : Anchor → Condition
  | lineStart => if f.multiLine then .lineStart f.carriageReturn else .textStart
  | lineEnd => if f.multiLine then .lineEnd f.carriageReturn else .textEnd
  | textStart => .textStart
  | textEnd => .textEnd
  | wordBoundary => .wordBoundary f.unicode
  | notWordBoundary => .notWordBoundary f.unicode
  | wordStart => .wordStart f.unicode
  | wordEnd => .wordEnd f.unicode
  | wordStartHalf => .wordStartHalf f.unicode
  | wordEndHalf => .wordEndHalf f.unicode

end Anchor

def dot (f : Flags) (span : Span) : Except Fault CharSet :=
  if !f.unicode then .error ⟨.notUtf8, span, none⟩
  else if f.dotMatchesNewline then .ok .full
  else if f.carriageReturn then .ok (CharSet.compl ⟨[(10, 10), (13, 13)]⟩)
  else .ok (CharSet.compl ⟨[(10, 10)]⟩)

namespace Node

/-- The alternatives that a pattern stands for, and the flags that hold after
it. -/
def branches : Node → Flags → Except Fault (List Expr × Flags)
  | empty, f => .ok ([.empty], f)
  | flags changes, f => .ok ([.empty], f.changeAll changes)
  | literal l, f => (l.meaning f).map fun s => ([.ofSet s], f)
  | dot span, f => (Pattern.dot f span).map fun s => ([.ofSet s], f)
  | anchor kind, f => .ok ([.when (kind.meaning f)], f)
  | shorthand name negated span, f => (name.meaning f negated span).map fun s => ([.ofSet s], f)
  | property query negated span, f => (query.meaning f negated span).map fun s => ([.ofSet s], f)
  | set s negated span, f =>
    ((s.meaning f).bind (f.settle negated span)).map fun s => ([.ofSet s], f)
  | repeated body least most _, f =>
    (branches body f).map fun (es, f) => ([(Expr.oneOf es).times least most], f)
  | group changes index body _, f =>
    (branches body (f.changeAll changes)).map fun (es, _) =>
      let e := Expr.oneOf es
      ([match index with | none => e | some n => .group n e], f)
  | seq a b, f =>
    (branches a f).bind fun (es, f) => (branches b f).map fun (es', f) =>
      ([.concat [.oneOf es, .oneOf es']], f)
  | alt a b, f =>
    (branches a f).bind fun (es, f) => (branches b f).map fun (es', f) => (es ++ es', f)
  | sequence parts _, f => branches parts f
  | choice all _, f => (branches all f).map fun (es, f) => ([.oneOf es], f)

def meaning (n : Node) (f : Flags) : Except Fault Expr :=
  (n.branches f).map fun (es, _) => .oneOf es

end Node

end Pattern

end MenuLine
