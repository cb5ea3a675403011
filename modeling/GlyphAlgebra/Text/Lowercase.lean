import GlyphAlgebra.Text.Lowercase.Table

namespace GlyphAlgebra

def smallLetter? (n : Nat) : Option Nat :=
  smallLetterSeries.findSome? fun (first, last, step, small) =>
    if first ≤ n && n ≤ last && (n - first) % step = 0 then some (small + (n - first)) else none

def startsCased (cs : List Char) : Bool :=
  (cs.dropWhile caseIgnorableRanges.holds).head?.any casedRanges.holds

/-- A capital sigma is written small in another way at the end of a word; the letters before it
are given in reverse. -/
def smallSigma (before after : List Char) : Char :=
  if startsCased before && !startsCased after then 'ς' else 'σ'

/-- The small form of a character between its neighbours; the dotted capital I has two. -/
def lowercaseChar (before : List Char) (c : Char) (after : List Char) : List Char :=
  if c = 'Σ' then [smallSigma before after]
  else if c = 'İ' then ['i', '\u0307']
  else [((smallLetter? c.toNat).map Char.ofNat).getD c]

def lowercaseFrom (before : List Char) : List Char → List Char
  | [] => []
  | c :: cs => lowercaseChar before c cs ++ lowercaseFrom (c :: before) cs

def lowercase (cs : List Char) : List Char :=
  lowercaseFrom [] cs

end GlyphAlgebra
