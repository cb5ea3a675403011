import GlyphAlgebra.Bitmap.Mask

namespace GlyphAlgebra

inductive FaultKind
  | system | value | runtime
  deriving DecidableEq, Repr

structure FontFault where
  kind : FaultKind
  message : String
  deriving DecidableEq, Repr

/-- The drawing of a text: rows of coverage, placed from its origin on the baseline. -/
structure Ink where
  left : Int
  top : Int
  rows : List (List UInt8)
  deriving DecidableEq, Repr

structure Typeface where
  metrics : Except FontFault (Int × Int)
  advance : String → Except FontFault Float
  ink : String → Except FontFault Ink

/-- Finds faces by name, or the one built in, which need not be scalable. -/
structure FontBackend where
  file : String → Float → Except FontFault Typeface
  builtin : Float → Except FontFault (Option Typeface)

def FontBackend.empty : FontBackend where
  file name _ := .error ⟨.system, s!"no font file {name}"⟩
  builtin _ := .error ⟨.system, "no font built in"⟩

def Ink.coverage (ink : Ink) (x y : Int) : UInt8 :=
  if ink.left ≤ x ∧ ink.top ≤ y then
    ((ink.rows[(y - ink.top).toNat]?.bind (·[(x - ink.left).toNat]?))).getD 0
  else 0

/-- A mask of the given size that shows what of the ink falls on it, the baseline at `ascent`. -/
def Ink.mask (ink : Ink) (width height : Nat) (ascent : Int) : Mask :=
  Raster.tabulate width height fun x y => ink.coverage x (y - ascent)

end GlyphAlgebra
