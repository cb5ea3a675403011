import GlyphAlgebra.Bitmap.Blend
import GlyphAlgebra.Color.Strategy
import GlyphAlgebra.Font.Library
import GlyphAlgebra.Text.Blank
import GlyphAlgebra.Tree.Fold

namespace GlyphAlgebra

inductive GlyphFault
  | font (f : FontFault)
  | advance (e : NotFinite)
  deriving DecidableEq, Repr

def GlyphFault.message : GlyphFault → String
  | font f => f.message
  | advance e => e.message

inductive RenderError
  | strategy (e : StrategyError)
  | font (e : FontError)
  /-- The font failed at a text in a way that is reported with it. -/
  | glyph (text : String) (cause : GlyphFault)
  /-- The font failed in a way of its own. -/
  | raw (cause : GlyphFault)
  | color (e : ColorError)
  | bitmap (e : BitmapError)
  | stray (e : NotAnExpression)
  deriving DecidableEq, Repr

namespace RenderError

def message : RenderError → String
  | strategy e => e.message
  | font e => e.message
  | glyph text cause => s!"Failed to rasterize {quoted text}: {cause.message}"
  | raw cause => cause.message
  | color e => e.message
  | bitmap e => e.message
  | stray e => e.message

def isExpected : RenderError → Bool
  | font (.fault _) => false
  | font _ => true
  | glyph _ _ => true
  | _ => false

end RenderError

inductive LogEntry
  | placeholder (text : String)
  | glyph (text : String) (width height : Int) (color : Rgba)
  | composite (op : Operator) (width height : Nat)
  deriving DecidableEq, Repr

structure RenderState where
  strategy : Strategy
  library : FontLibrary
  log : List LogEntry

/-- A render may fail, and what it did until then remains. -/
abbrev RenderM := ExceptT RenderError (StateM RenderState)

def note (entry : LogEntry) : RenderM Unit :=
  modify fun s => { s with log := s.log ++ [entry] }

def takeColor : RenderM Color := do
  let s ← get
  match s.strategy.next with
  | .ok (color, strategy) =>
    set { s with strategy := strategy }
    return color
  | .error e => throw (.strategy e)

def loadFont (backend : FontBackend) (spec : String) : RenderM Font := do
  let s ← get
  let (result, library) := s.library.load backend spec
  set { s with library := library }
  match result with
  | .ok font => return font
  | .error e => throw (.font e)

structure GlyphBox where
  width : Int
  height : Int
  ascent : Int
  deriving DecidableEq, Repr

def Typeface.box (face : Typeface) (text : String) : Except GlyphFault GlyphBox := do
  let (ascent, descent) ← face.metrics.mapError .font
  let advance ← (face.advance text).mapError .font
  let width ← (ceiling advance).mapError .advance
  return ⟨width, ascent + descent, ascent⟩

/-- A text without ink or extent gets a placeholder. -/
def GlyphBox.isEmpty (box : GlyphBox) (text : String) : Bool :=
  text.toList.all isBlank || box.width ≤ 0 || box.height ≤ 0

/-- The mask of a text, or none where a placeholder stands for it. -/
def Typeface.mask? (face : Typeface) (text : String) : Except GlyphFault (Option Mask) := do
  let box ← face.box text
  if box.isEmpty text then return none
  let ink ← (face.ink text).mapError .font
  return some (ink.mask box.width.toNat box.height.toNat box.ascent)

/-- Faults of the runtime kind and endless advances are not reported with the text. -/
def GlyphFault.atText (text : String) : GlyphFault → RenderError
  | font ⟨.runtime, message⟩ => .raw (font ⟨.runtime, message⟩)
  | advance .infinity => .raw (advance .infinity)
  | cause => .glyph text cause

def liftRender {ε α : Type} (f : ε → RenderError) (r : Except ε α) : RenderM α :=
  match r with
  | .ok a => return a
  | .error e => throw (f e)

/-- Draws a text in the next color, which is taken in any case. -/
def drawGlyph (backend : FontBackend) (spec : String) (text : String) : RenderM Bitmap := do
  let color ← takeColor
  let font ← loadFont backend spec
  match ← liftRender (GlyphFault.atText text) (font.face.mask? text) with
  | none =>
    note (.placeholder text)
    return Bitmap.placeholder
  | some mask =>
    let rgba ← liftRender .color color.toRgba
    note (.glyph text mask.width mask.height rgba)
    return mask.fill rgba

def drawCombination (op : Operator) (a b : Bitmap) : RenderM Bitmap := do
  let bitmap ← liftRender .bitmap (Bitmap.combine op a b)
  note (.composite op bitmap.width bitmap.height)
  return bitmap

def drawing (backend : FontBackend) (spec : String) : Reduction RenderM String Bitmap where
  literal text := drawGlyph backend spec text
  paren _ inner := return inner
  binary op _ _ first second := drawCombination op first second
  stray text := throw (.stray ⟨text⟩)

/-- Draws a tree; each literal takes one color, in the order of the source. -/
def render (backend : FontBackend) (spec : String) (t : Tree String) : RenderM Bitmap :=
  t.fold (drawing backend spec)

end GlyphAlgebra
