import GlyphAlgebra.Bitmap
import GlyphAlgebra.Operator

namespace GlyphAlgebra

/-- How a source covers a destination, after Porter and Duff. -/
inductive BlendMode
  | sourceOver | destinationOut | sourceIn | xor
  deriving DecidableEq, Repr

namespace BlendMode

def all : List BlendMode := [sourceOver, destinationOut, sourceIn, xor]

def name : BlendMode → String
  | sourceOver => "source-over"
  | destinationOut => "destination-out"
  | sourceIn => "source-in"
  | xor => "xor"

def ofName (text : String) : Except UnknownName BlendMode :=
  match all.find? (·.name = text) with
  | some mode => .ok mode
  | none => .error ⟨text, "BlendMode"⟩

def factors (mode : BlendMode) (source destination : Float32) : Float32 × Float32 :=
  match mode with
  | sourceOver => (1, 1 - source)
  | destinationOut => (0, 1 - source)
  | sourceIn => (destination, 0)
  | xor => (1 - destination, 1 - source)

end BlendMode

/-- A color whose channels already carry the weight of its alpha. -/
structure Premultiplied where
  red : Float32
  green : Float32
  blue : Float32
  alpha : Float32

def Rgba.premultiplied (c : Rgba) : Premultiplied :=
  let alpha := c.alpha.toFloat32 / 255
  ⟨c.red.toFloat32 / 255 * alpha, c.green.toFloat32 / 255 * alpha,
    c.blue.toFloat32 / 255 * alpha, alpha⟩

/-- Rounds a number between 0 and 255, a half to the even neighbour. -/
def roundToByte (v : Float32) : UInt8 :=
  let whole := v.toUInt8
  let rest := v - whole.toFloat32
  if rest < 0.5 then whole
  else if 0.5 < rest then whole + 1
  else if whole % 2 = 0 then whole else whole + 1

def byteOfUnit (v : Float32) : UInt8 :=
  roundToByte ((if v < 0 then 0 else if 1 < v then 1 else v) * 255)

/-- Undoes the weighting, and takes a channel without weight for black. -/
def straightChannel (weighted alpha : Float32) : Float32 :=
  if 0 < alpha then weighted / alpha else 0

def blendPixel (mode : BlendMode) (destination source : Rgba) : Rgba :=
  let s := source.premultiplied
  let d := destination.premultiplied
  let (fs, fd) := mode.factors s.alpha d.alpha
  let alpha := s.alpha * fs + d.alpha * fd
  let channel (a b : Float32) : UInt8 := byteOfUnit (straightChannel (a * fs + b * fd) alpha)
  ⟨channel s.red d.red, channel s.green d.green, channel s.blue d.blue, byteOfUnit alpha⟩

def Bitmap.blend (destination source : Bitmap) (mode : BlendMode) : Except BitmapError Bitmap :=
  if destination.width = source.width ∧ destination.height = source.height then
    .ok (Raster.tabulate destination.width destination.height fun x y =>
      blendPixel mode (destination.pixel x y) (source.pixel x y))
  else
    .error (.sizesDiffer (source.width, source.height) (destination.width, destination.height))

def Operator.blendMode? : Operator → Option BlendMode
  | .concat => none
  | .add | .or => some .sourceOver
  | .sub => some .destinationOut
  | .and => some .sourceIn
  | .xor => some .xor

/-- Combines a left and a right operand; all but concatenation share a canvas that holds both. -/
def Bitmap.combine (op : Operator) (a b : Bitmap) : Except BitmapError Bitmap :=
  match op.blendMode? with
  | none => a.beside b
  | some mode => do
    let width := max a.width b.width
    let height := max a.height b.height
    (← a.recenter width height).blend (← b.recenter width height) mode

end GlyphAlgebra
