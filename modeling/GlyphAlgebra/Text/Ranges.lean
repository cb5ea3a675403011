namespace GlyphAlgebra

/-- Closed ranges of code points, in increasing order. -/
abbrev CodeRanges := List (Nat × Nat)

def CodeRanges.covers : CodeRanges → Nat → Bool
  | [], _ => false
  | (low, high) :: rest, n =>
    if n < low then false else n ≤ high || CodeRanges.covers rest n

def CodeRanges.holds (ranges : CodeRanges) (c : Char) : Bool :=
  ranges.covers c.toNat

end GlyphAlgebra
