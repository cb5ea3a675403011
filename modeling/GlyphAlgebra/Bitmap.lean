import GlyphAlgebra.Raster

namespace GlyphAlgebra

/-- A color in bytes, with straight alpha. -/
structure Rgba where
  red : UInt8
  green : UInt8
  blue : UInt8
  alpha : UInt8
  deriving DecidableEq, Repr

def Rgba.transparent : Rgba := ⟨0, 0, 0, 0⟩

abbrev Bitmap := Raster Rgba

inductive BitmapError
  | notPositive (width height : Int)
  | sizesDiffer (source destination : Nat × Nat)
  | noPixels
  deriving DecidableEq, Repr

def BitmapError.message : BitmapError → String
  | notPositive width height => s!"Bitmap size must be positive, got {width}x{height}"
  | sizesDiffer (sw, sh) (dw, dh) => s!"Cannot blend ({sw}, {sh}) onto ({dw}, {dh}): sizes differ"
  | noPixels => "cannot write empty image"

namespace Bitmap

/-- A bitmap goes on transparent without end. -/
def pixel (b : Bitmap) (x y : Int) : Rgba :=
  if 0 ≤ x ∧ 0 ≤ y then (b.get? x.toNat y.toNat).getD .transparent else .transparent

def draw (width height : Int) (f : Int → Int → Rgba) : Except BitmapError Bitmap :=
  if width ≤ 0 ∨ height ≤ 0 then .error (.notPositive width height)
  else .ok (Raster.tabulate width.toNat height.toNat fun x y => f x y)

def blank (width height : Int) : Except BitmapError Bitmap :=
  draw width height fun _ _ => .transparent

/-- Stands for a character without ink or advance. -/
def placeholder : Bitmap :=
  Raster.tabulate 1 1 fun _ _ => .transparent

def fileImage (b : Bitmap) : Except BitmapError Bitmap :=
  if b.width = 0 ∨ b.height = 0 then .error .noPixels else .ok b

def centering (outer inner : Int) : Int := (outer - inner) / 2

/-- Copies a bitmap to the middle of a new one, cropping what does not fit. -/
def recenter (b : Bitmap) (width height : Int) : Except BitmapError Bitmap :=
  let left := centering width b.width
  let top := centering height b.height
  draw width height fun x y => b.pixel (x - left) (y - top)

/-- Puts two bitmaps side by side, each at the middle of the greater height. -/
def beside (a b : Bitmap) : Except BitmapError Bitmap :=
  let height := max a.height b.height
  draw (a.width + b.width : Nat) height fun x y =>
    if x < a.width then a.pixel x (y - centering height a.height)
    else b.pixel (x - a.width) (y - centering height b.height)

end Bitmap

end GlyphAlgebra
