import MenuLine.Unicode.Script
import MenuLine.Unicode.SentenceBreak

/-!
# Word breaks

The classes of characters by which words are told apart.
-/

namespace MenuLine.Unicode

namespace WordBreak

def extend : CharSet :=
  (graphemeExtend.union (unionOf ["mc"])).union (propertyOf "emojimodifier")

def format : CharSet :=
  .ofTable ["AD 61C 180E 200E-200F 202A-202E 2060-2064 2066-206F FEFF FFF9-FFFB 13430-1343F 1BCA0-1BCA3",
     "1D173-1D17A E0001"]

def katakana : CharSet :=
  .ofTable ["3031-3035 309B-309C 30A0-30FA 30FC-30FF 31F0-31FF 32D0-32FE 3300-3357 FF66-FF9D",
     "1AFF0-1AFF3 1AFF5-1AFFB 1AFFD-1AFFE 1B000 1B120-1B122 1B155 1B164-1B167"]

def hebrew : CharSet := ((script? "hebr".toList).getD .empty).inter (unionOf ["lo"])

/-- Letters of scripts that write their words without blanks. -/
def unspaced : CharSet :=
  .ofTable ["E01-E30 E32-E33 E40-E46 E81-E82 E84 E86-E8A E8C-EA3 EA5 EA7-EB0 EB2-EB3 EBD EC0-EC4 EC6",
     "EDC-EDF 1000-102A 103F 1050-1055 105A-105D 1061 1065-1066 106E-1070 1075-1081 108E",
     "1780-17B3 17D7 17DC 1950-196D 1970-1974 1980-19AB 19B0-19C9 1A20-1A54 1AA7 A9E0-A9E4",
     "A9E6-A9EF A9FA-A9FE AA60-AA76 AA7A AA7E-AAAF AAB1 AAB5-AAB6 AAB9-AABD AAC0 AAC2 AADB-AADD",
     "11700-1171A 11740-11746"]

/-- Signs that belong to the words around them like letters. -/
def letterLike : CharSet :=
  .ofTable ["2C2-2C5 2D2-2D7 2DE-2DF 2E5-2EB 2ED 2EF-2FF 55A-55C 55E 58A 5F3 70F A708-A716 A720-A721",
     "A789-A78A AB5B"]

def letter : CharSet :=
  ((((((alphabetic.diff (propertyOf "ideographic")).diff katakana).diff
    ((script? "hira".toList).getD .empty)).diff hebrew).diff extend).diff unspaced).union
      letterLike

def values : List (List String × CharSet) :=
  [(["cr"], .single '\r'),
    (["lf"], .single '\n'),
    (["nl", "newline"], .ofTable ["B-C 85 2028-2029"]),
    (["extend"], extend),
    (["zwj"], ⟨[(0x200D, 0x200D)]⟩),
    (["fo", "format"], format),
    (["ka", "katakana"], katakana),
    (["hl", "hebrewletter"], hebrew),
    (["le", "aletter"], letter),
    (["sq", "singlequote"], .single '\''),
    (["dq", "doublequote"], .single '"'),
    (["mb", "midnumlet"], midNumLet),
    (["ml", "midletter"], midLetter),
    (["mn", "midnum"], .ofTable ["2C 3B 37E 589 60C-60D 66C 7F8 2044 FE50 FE54 FF0C FF1B"]),
    (["nu", "numeric"], SentenceBreak.numeric.diff (.ofTable ["66C"])),
    (["ex", "extendnumlet"], .ofTable ["5F 202F 203F-2040 2054 FE33-FE34 FE4D-FE4F FF3F"]),
    (["ri", "regionalindicator"], propertyOf "regionalindicator"),
    (["wsegspace"], .ofTable ["20 1680 2000-2006 2008-200A 205F 3000"])]

end WordBreak

def wordBreak? (name : Text) : Option CharSet := NamedSet.pick? WordBreak.values name

end MenuLine.Unicode
