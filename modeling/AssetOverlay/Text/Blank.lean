/-!
# White space

The characters with the Unicode property `White_Space`, and cutting them off both ends of a text.
-/

namespace AssetOverlay.Blank

/-- The ranges of code points with the property `White_Space`. -/
def ranges : List (Nat × Nat) :=
  [(0x9, 0xd), (0x20, 0x20), (0x85, 0x85), (0xa0, 0xa0), (0x1680, 0x1680), (0x2000, 0x200a),
    (0x2028, 0x2029), (0x202f, 0x202f), (0x205f, 0x205f), (0x3000, 0x3000)]

/-- Whether a character is white space. -/
def isBlank (character : Char) : Bool :=
  ranges.any fun range ↦ range.1 ≤ character.toNat && character.toNat ≤ range.2

/-- Cuts white space off the front. -/
def trimFront (text : List Char) : List Char :=
  text.dropWhile isBlank

/-- Cuts white space off both ends. -/
def trim (text : List Char) : List Char :=
  (trimFront (trimFront text).reverse).reverse

end AssetOverlay.Blank
