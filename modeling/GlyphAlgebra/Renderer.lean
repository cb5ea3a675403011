import GlyphAlgebra.Color.Catalog
import GlyphAlgebra.Reading
import GlyphAlgebra.Render

namespace GlyphAlgebra

def defaultFontSize : Float := 300
def defaultFontFamily : String := "roboto, sans-serif"
def defaultExpression : String := "A + B || 8 & 0 || G - K"

structure Renderer where
  fontSize : Float
  fontFamily : String
  /-- What is built for each drawing: a fresh strategy, unless that fails. -/
  factory : Except StrategyError Strategy

inductive RendererError
  | fontSize (size : Float)
  | strategy (e : StrategyError)
  deriving DecidableEq, Repr

def RendererError.message : RendererError → String
  | fontSize size => s!"Font size must be positive, got {floatText size}"
  | strategy e => e.message

namespace Renderer

def make (fontSize : Float) (fontFamily : String) (factory : Except StrategyError Strategy) :
    Except RendererError Renderer :=
  if fontSize ≤ 0 then .error (.fontSize fontSize) else .ok ⟨fontSize, fontFamily, factory⟩

def ofSchemeName (name : String) (fontSize : Float) (fontFamily : String) :
    Except RendererError Renderer :=
  match Scheme.ofName name with
  | .ok scheme => make fontSize fontFamily (.ok (.start scheme))
  | .error e => .error (.strategy e)

def fontSpec (r : Renderer) : String :=
  fontSpecText r.fontSize r.fontFamily

end Renderer

/-- What renderers share and leave behind. -/
structure Workshop where
  library : FontLibrary
  log : List LogEntry
  started : Nat

def Workshop.empty : Workshop := ⟨.empty, [], 0⟩

structure Rendering where
  reading : Reading
  bitmap : Option Bitmap

namespace Renderer

def drawTree (r : Renderer) (backend : FontBackend) (t : Tree String) (w : Workshop) :
    Except RenderError Bitmap × Workshop :=
  let w := { w with started := w.started + 1 }
  match r.factory with
  | .error e => (.error (.strategy e), w)
  | .ok strategy =>
    let (result, state) := (render backend r.fontSpec t).run ⟨strategy, w.library, w.log⟩
    (result, { w with library := state.library, log := state.log })

def drawText (r : Renderer) (backend : FontBackend) (text : String) (w : Workshop) :
    Except RenderError Rendering × Workshop :=
  let reading := parse text
  match reading.expression with
  | none => (.ok ⟨reading, none⟩, w)
  | some e =>
    let (result, w) := r.drawTree backend e.toTree w
    (result.map fun bitmap => ⟨reading, some bitmap⟩, w)

end Renderer

end GlyphAlgebra
