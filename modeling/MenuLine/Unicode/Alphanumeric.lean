import MenuLine.Unicode.DerivedProperty

/-!
# Letters, numbers and words

A character is alphanumeric if it is alphabetic or a number of any kind. Names
follow the version of the standard after the one that the tables describe, so
that they may hold letters that no pattern knows yet. The words of a pattern
also hold marks, connecting punctuation and the two joiners.
-/

namespace MenuLine.Unicode

/-- The letters of the next version. -/
def laterLetters : CharSet :=
  .ofTable
    ["88F C5C CDC A7CE-A7CF A7D2 A7D4 A7F1 10940-10959 10EC5-10EC7 10EFA-10EFB 11B60-11B67",
      "11DB0-11DDB 16EA0-16EB8 16EBB-16ED3 16FF2-16FF6 187F8-187FF 18D09-18D1E 18D80-18DF2",
      "1E6C0-1E6DE 1E6E0-1E6F5 1E6FE-1E6FF 2B73A-2B73F 2CEA2-2CEAD 323B0-33479"]

/-- The numbers of the next version. -/
def laterNumbers : CharSet := .ofTable ["11DE0-11DE9"]

def letters : CharSet := alphabetic.union laterLetters

def isAlphabetic (c : Char) : Bool := if c.toNat < 128 then c.isAlpha else letters.contains c

def alphanumeric : CharSet := (letters.union (unionOf ["nd", "nl", "no"])).union laterNumbers

def isAlphanumeric (c : Char) : Bool :=
  if c.toNat < 128 then c.isAlphanum else alphanumeric.contains c

def wordCharacters : CharSet :=
  (alphabetic.union (unionOf ["mn", "mc", "me", "nd", "pc"])).union ⟨[(0x200C, 0x200D)]⟩

def isWordCharacter (c : Char) : Bool :=
  if c.toNat < 128 then c.isAlphanum || c == '_' else wordCharacters.contains c

end MenuLine.Unicode
