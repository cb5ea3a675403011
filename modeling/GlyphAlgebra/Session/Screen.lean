import GlyphAlgebra.Bitmap

namespace GlyphAlgebra

inductive Container
  | page | sidebar | expander | wideColumn | narrowColumn
  deriving DecidableEq, Repr

inductive Widget
  | pageSettings (layout title : String)
  | slider (label : String) (least most value : Int) (key : String)
  | choice (label : String) (options : List String) (index : Nat) (key : String)
  | textBox (label value help key : String)
  | divider
  | subheader (body : String)
  | title (body : String)
  | text (body : String)
  | code (body : String)
  | expander (label : String)
  | columns (widths : List String)
  | liveText (label value key placeholder labelVisibility : String)
  | error (body icon : String)
  | image (bitmap : Bitmap)
  | download (label : String) (bitmap : Bitmap) (fileName mime key : String)
  | button (label key : String) (wide : Bool)
  deriving DecidableEq

/-- What the user has done to the widgets before a run; what is absent keeps its value. -/
structure UserEvent where
  /-- The text box can also hand back nothing at all. -/
  text : Option (Option String)
  fontSize : Option Int
  fontFamily : Option String
  colorStrategy : Option String
  prettyPressed : Bool
  deriving DecidableEq, Repr

def UserEvent.idle : UserEvent := ⟨none, none, none, none, false⟩

end GlyphAlgebra
