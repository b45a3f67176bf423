import MenuLine.Unicode.DerivedProperty

/-!
# Sentence breaks

The classes of characters by which the ends of sentences are found.
-/

namespace MenuLine.Unicode

namespace SentenceBreak

/-- One script has capital letters that do not begin sentences. -/
def capitalStyle : CharSet := .ofTable ["1C90-1CBA 1CBD-1CBF"]

def smallStyle : CharSet := .ofTable ["10D0-10FA 10FD-10FF"]

def extend : CharSet :=
  (graphemeExtend.union (unionOf ["mc"])).union ⟨[(0x200D, 0x200D)]⟩

def separator : CharSet := .ofTable ["85 2028-2029"]

def space : CharSet := (whiteSpace.diff separator).diff (.ofTable ["A D"])

def format : CharSet :=
  .ofTable ["AD 61C 70F 180E 200B 200E-200F 202A-202E 2060-2064 2066-206F FEFF FFF9-FFFB 13430-1343F",
     "1BCA0-1BCA3 1D173-1D17A E0001"]

def numeric : CharSet :=
  (unionOf ["nd"]).union (.ofTable ["600-605 66B-66C 6DD 890-891 8E2 19DA 110BD 110CD"])

def fullStop : CharSet := .ofTable ["2E 2024 FE52 FF0E"]

def continuing : CharSet :=
  .ofTable ["2C-2D 3A-3B 37E 55D 60C-60D 7F8 1802 1808 2013-2014 3001 FE10-FE11 FE13-FE14 FE31-FE32",
     "FE50-FE51 FE54-FE55 FE58 FE63 FF0C-FF0D FF1A-FF1B FF64"]

def close : CharSet :=
  .ofTable ["22 27-29 5B 5D 7B 7D AB BB F3A-F3D 169B-169C 2018-201F 2039-203A 2045-2046 207D-207E",
     "208D-208E 2308-230B 2329-232A 275B-2760 2768-2775 27C5-27C6 27E6-27EF 2983-2998 29D8-29DB",
     "29FC-29FD 2E00-2E0D 2E1C-2E1D 2E20-2E29 2E42 2E55-2E5C 3008-3011 3014-301B 301D-301F",
     "FD3E-FD3F FE17-FE18 FE35-FE44 FE47-FE48 FE59-FE5E FF08-FF09 FF3B FF3D FF5B FF5D FF5F-FF60",
     "FF62-FF63 1F676-1F678"]

def lower : CharSet := (lowercase.diff graphemeExtend).diff smallStyle

def upper : CharSet := (uppercase.union (unionOf ["lt"])).diff capitalStyle

def otherLetter : CharSet :=
  ((alphabetic.diff (lower.union upper)).diff extend).union (.ofTable ["5F3"])

def values : List (List String × CharSet) :=
  [(["cr"], .single '\r'),
    (["lf"], .single '\n'),
    (["ex", "extend"], extend),
    (["se", "sep"], separator),
    (["sp"], space),
    (["fo", "format"], format),
    (["nu", "numeric"], numeric),
    (["at", "aterm"], fullStop),
    (["st", "sterm"], (propertyOf "sentenceterminal").diff fullStop),
    (["sc", "scontinue"], continuing),
    (["cl", "close"], close),
    (["lo", "lower"], lower),
    (["up", "upper"], upper),
    (["le", "oletter"], otherLetter)]

end SentenceBreak

def sentenceBreak? (name : Text) : Option CharSet := NamedSet.pick? SentenceBreak.values name

end MenuLine.Unicode
