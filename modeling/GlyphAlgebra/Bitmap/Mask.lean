import GlyphAlgebra.Bitmap

namespace GlyphAlgebra

/-- How far each pixel is covered, from 0 to 255. -/
abbrev Mask := Raster UInt8

/-- The share of an alpha that a coverage leaves, rounded to the nearest byte. -/
def coveredAlpha (coverage alpha : UInt8) : UInt8 :=
  UInt8.ofNat ((coverage.toNat * alpha.toNat + 127) / 255)

def Mask.fill (mask : Mask) (color : Rgba) : Bitmap :=
  mask.map fun coverage => { color with alpha := coveredAlpha coverage color.alpha }

end GlyphAlgebra
