import MenuLine.Unicode.CharSet

/-!
# White space

The characters with the property `White_Space`.
-/

namespace MenuLine

namespace Unicode

def whiteSpace : CharSet :=
  ⟨[(0x9, 0xD), (0x20, 0x20), (0x85, 0x85), (0xA0, 0xA0), (0x1680, 0x1680), (0x2000, 0x200A),
    (0x2028, 0x2029), (0x202F, 0x202F), (0x205F, 0x205F), (0x3000, 0x3000)]⟩

def isWhiteSpace (c : Char) : Bool := whiteSpace.contains c

end Unicode

namespace Text

def trimStart (t : Text) : Text := t.dropWhile Unicode.isWhiteSpace

def trimEnd (t : Text) : Text := (trimStart t.reverse).reverse

def trim (t : Text) : Text := trimEnd (trimStart t)

end Text

end MenuLine
