import GlyphAlgebra.Text.Ranges

namespace GlyphAlgebra

def spacingRanges : CodeRanges :=
  [(0x9, 0xd), (0x20, 0x20), (0x85, 0x85), (0xa0, 0xa0), (0x1680, 0x1680), (0x2000, 0x200a),
   (0x2028, 0x2029), (0x202f, 0x202f), (0x205f, 0x205f), (0x3000, 0x3000)]

/-- White space, which separates the tokens of an expression. -/
def isSpacing (c : Char) : Bool :=
  spacingRanges.holds c

/-- Blank characters are white space and the four information separators. -/
def isBlank (c : Char) : Bool :=
  isSpacing c || (0x1c ≤ c.toNat && c.toNat ≤ 0x1f)

def strip (p : Char → Bool) (cs : List Char) : List Char :=
  ((cs.dropWhile p).reverse.dropWhile p).reverse

end GlyphAlgebra
