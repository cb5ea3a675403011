import GlyphAlgebra.Bitmap
import GlyphAlgebra.Number.Exact

namespace GlyphAlgebra

/-- Channels between 0 and 1; what lies outside is clipped when the color is used. -/
structure Rgb where
  red : Float
  green : Float
  blue : Float
  alpha : Float
  deriving DecidableEq, Repr

/-- The hue is in degrees, saturation and lightness are between 0 and 1. -/
structure Hsl where
  hue : Float
  saturation : Float
  lightness : Float
  alpha : Float
  deriving DecidableEq, Repr

/-- Perceptual lightness from 0 to 100, chroma, and the hue in degrees. -/
structure Lch where
  lightness : Float
  chroma : Float
  hue : Float
  alpha : Float
  deriving DecidableEq, Repr

inductive Color
  | rgb (c : Rgb)
  | hsl (c : Hsl)
  | lch (c : Lch)
  deriving DecidableEq, Repr

inductive ColorError
  | notANumber
  | overflow
  | outsideDomain
  deriving DecidableEq, Repr

def ColorError.message : ColorError → String
  | notANumber => NotFinite.nan.message
  | overflow => "(34, 'Numerical result out of range')"
  | outsideDomain => "math domain error"

/-- Clips a channel and rounds it to a byte, a half to the even neighbour. -/
def clippedByte (v : Float) : Except ColorError UInt8 :=
  let clipped := if v < 0 then 0 else if 1 < v then 1 else v
  if clipped.isNaN then .error .notANumber
  else
    let scaled := clipped * 255
    let whole := scaled.toUInt8
    let rest := scaled - whole.toFloat
    .ok (if rest < 0.5 then whole
      else if 0.5 < rest then whole + 1
      else if whole % 2 = 0 then whole else whole + 1)

def Rgb.toRgba (c : Rgb) : Except ColorError Rgba := do
  let red ← clippedByte c.red
  let green ← clippedByte c.green
  let blue ← clippedByte c.blue
  let alpha ← clippedByte c.alpha
  return ⟨red, green, blue, alpha⟩

/-- One channel of a hue on the ramp between two levels; the hue is in turns. -/
def hueRamp (low high hue : Float) : Float :=
  let hue := modulo hue 1
  if hue < 1.0 / 6.0 then low + (high - low) * hue * 6.0
  else if hue < 0.5 then high
  else if hue < 2.0 / 3.0 then low + (high - low) * (2.0 / 3.0 - hue) * 6.0
  else low

def rgbOfHls (hue lightness saturation : Float) : Float × Float × Float :=
  if saturation == 0 then (lightness, lightness, lightness)
  else
    let high :=
      if lightness ≤ 0.5 then lightness * (1.0 + saturation)
      else lightness + saturation - lightness * saturation
    let low := 2.0 * lightness - high
    (hueRamp low high (hue + 1.0 / 3.0), hueRamp low high hue, hueRamp low high (hue - 1.0 / 3.0))

def Hsl.turnHue (c : Hsl) (degrees : Float) : Hsl :=
  { c with hue := modulo (c.hue + degrees) 360 }

def Hsl.toRgb (c : Hsl) : Rgb :=
  let (red, green, blue) := rgbOfHls (modulo c.hue 360 / 360) c.lightness c.saturation
  ⟨red, green, blue, c.alpha⟩

def Lch.turnHue (c : Lch) (degrees : Float) : Lch :=
  { c with hue := modulo (c.hue + degrees) 360 }

/-- The third power, which a finite number must not leave the range with. -/
def cube (x : Float) : Except ColorError Float :=
  let y := x.pow 3
  if y.isInf && !x.isInf then .error .overflow else .ok y

def labKappa : Float := 24389 / 27
def labEpsilon : Float := 216 / 24389

def expandLab (f : Float) : Except ColorError Float := do
  let y ← cube f
  return if labEpsilon < y then y else (116 * f - 16) / labKappa

structure Triple where
  first : Float
  second : Float
  third : Float

def Triple.transform (rows : Triple × Triple × Triple) (v : Triple) : Triple :=
  let sum (r : Triple) := r.first * v.first + r.second * v.second + r.third * v.third
  ⟨sum rows.1, sum rows.2.1, sum rows.2.2⟩

/-- Lightness and opponent colors in the coordinates of the first daylight white. -/
def xyzOfLab (lightness a b : Float) : Except ColorError Triple := do
  let fy := (lightness + 16) / 116
  let x ← expandLab (fy + a / 500)
  let y ← if labKappa * labEpsilon < lightness then cube fy else pure (lightness / labKappa)
  let z ← expandLab (fy - b / 200)
  return ⟨x * (0.3457 / 0.3585), y * 1.0, z * ((1.0 - 0.3457 - 0.3585) / 0.3585)⟩

/-- From the warmer to the cooler daylight white. -/
def daylightAdaption : Triple × Triple × Triple :=
  (⟨0.9554734527042182, -0.023098536874261423, 0.0632593086610217⟩,
   ⟨-0.028369706963208136, 1.0099954580058226, 0.021041398966943008⟩,
   ⟨0.012314001688319899, -0.020507696433477912, 1.3303659366080753⟩)

/-- From tristimulus values to linear light of the three primaries. -/
def primaryMatrix : Triple × Triple × Triple :=
  (⟨3.2409699419045226, -1.537383177570094, -0.4986107602930034⟩,
   ⟨-0.9692436362808796, 1.8759675015077202, 0.04155505740717559⟩,
   ⟨0.05563007969699366, -0.20397695888897652, 1.0569715142428786⟩)

/-- Encodes linear light; a negative value becomes the opposite of a positive one. -/
def encodeGamma (linear : Float) : Float :=
  let magnitude := linear.abs
  let encoded :=
    if magnitude ≤ 0.0031308 then 12.92 * magnitude
    else 1.055 * magnitude.pow (1 / 2.4) - 0.055
  if linear < 0 then -1 * encoded
  else if 0 < linear then encoded
  else if linear == 0 then 0 * encoded
  else linear

def Lch.toRgb (c : Lch) : Except ColorError Rgb := do
  let radians := c.hue * (3.141592653589793 / 180)
  if radians.isInf then throw .outsideDomain
  let a := c.chroma * radians.cos
  let b := c.chroma * radians.sin
  let xyz ← xyzOfLab c.lightness a b
  let light := (xyz.transform daylightAdaption).transform primaryMatrix
  return ⟨encodeGamma light.first, encodeGamma light.second, encodeGamma light.third, c.alpha⟩

def Color.toRgba : Color → Except ColorError Rgba
  | rgb c => c.toRgba
  | hsl c => c.toRgb.toRgba
  | lch c => do (← c.toRgb).toRgba

def Color.turnHue? (degrees : Float) : Color → Option Color
  | rgb _ => none
  | hsl c => some (hsl (c.turnHue degrees))
  | lch c => some (lch (c.turnHue degrees))

end GlyphAlgebra
