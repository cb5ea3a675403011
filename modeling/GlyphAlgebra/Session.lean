import GlyphAlgebra.Form
import GlyphAlgebra.Newest
import GlyphAlgebra.Renderer
import GlyphAlgebra.Session.Reference
import GlyphAlgebra.Session.Screen

namespace GlyphAlgebra

structure Settings where
  fontSize : Int
  fontFamily : String
  colorStrategy : String
  deriving DecidableEq, Repr

/-- What a session keeps from one run to the next. -/
structure Session where
  settings : Settings
  text : String
  /-- A new version makes a new text box, which takes up the stored text. -/
  inputVersion : Nat
  latest : Newest Rendering
  library : FontLibrary

def Session.start : Session :=
  ⟨⟨300, defaultFontFamily, defaultSchemeName⟩, defaultExpression, 0, .empty, .empty⟩

inductive SessionError
  | unlisted (name : String)
  | fontSize (size : Int)
  | sizeOverflow
  | renderer (e : RendererError)
  | render (e : RenderError)
  deriving DecidableEq, Repr

def SessionError.message : SessionError → String
  | unlisted name => s!"{quoted name} is not in list"
  | fontSize size => s!"Font size must be positive, got {size}"
  | sizeOverflow => "int too large to convert to float"
  | renderer e => e.message
  | render e => e.message

/-- Failures that the screen reports in place of a drawing. -/
def SessionError.isExpected : SessionError → Bool
  | render e => e.isExpected
  | _ => false

inductive RunEnd
  | done
  | stop
  | rerun
  | error (e : SessionError)
  deriving DecidableEq, Repr

structure RunReport where
  calls : List (Container × Widget)
  result : RunEnd
  session : Session
  requests : List FontRequest

/-- The settings after the widgets of the sidebar; an empty family means the usual one. -/
def Settings.after (s : Settings) (event : UserEvent) : Settings :=
  let family := event.fontFamily.getD s.fontFamily
  { fontSize := event.fontSize.getD s.fontSize
    fontFamily := if family = "" then defaultFontFamily else family
    colorStrategy := event.colorStrategy.getD s.colorStrategy }

def Settings.renderer (s : Settings) : Except SessionError Renderer :=
  match Scheme.ofName s.colorStrategy with
  | .error e => .error (.renderer (.strategy e))
  | .ok _ =>
    if s.fontSize ≤ 0 then .error (.fontSize s.fontSize)
    else
      (Renderer.ofSchemeName s.colorStrategy (nearestOfInt s.fontSize 1) s.fontFamily).mapError
        .renderer

/-- The least whole number that is nearer to two to the power of 1024 than to any float. -/
def floatOverflow : Int := Int.pow 2 1024 - Int.pow 2 970

def sizeSlider (s : Settings) : Container × Widget :=
  (.sidebar, .slider "Font Size" 2 1000 s.fontSize "font_size")

def settingWidgets (s : Settings) (index : Nat) : List (Container × Widget) :=
  [(.sidebar, .choice "Color Palette" schemeNames index "color_strategy"),
   (.sidebar, .textBox "Font Family" s.fontFamily
      "Comma separated, tried in order. Generic families use the built-in font." "font_family")]

def referenceWidgets : List (Container × Widget) :=
  [(.sidebar, .divider),
   (.sidebar, .subheader "Syntax Reference"),
   (.sidebar, .code symbolSummary),
   (.sidebar, .expander "Grammar Definition"),
   (.expander, .code grammarText),
   (.page, .title "Arithmetic of Letters"),
   (.page, .columns ["0.75", "0.25"])]

def expressionBox (s : Session) : Container × Widget :=
  (.wideColumn,
    .liveText "Expression" s.text s!"expression_{s.inputVersion}" "expression" "collapsed")

def resultWidgets (r : Rendering) : List (Container × Widget) :=
  match r.bitmap with
  | none => [(.wideColumn, .error r.reading.message "⚠️")]
  | some bitmap =>
    [(.wideColumn, .image bitmap),
     (.wideColumn,
        .download "⬇️ Download PNG" bitmap "expression.png" "image/png" "download_btn")]

def formWidgets (e : Expr) : List (Container × Widget) :=
  [(.narrowColumn, .text "Call form"),
   (.narrowColumn, .code (callForm e)),
   (.narrowColumn, .text "Prefix form"),
   (.narrowColumn, .code (prefixForm e)),
   (.narrowColumn, .button "✨ Pretty" "pretty_btn" true)]

/-- Shows the latest result; the button rewrites the text of its expression. -/
def Session.display (s : Session) (event : UserEvent) :
    List (Container × Widget) × RunEnd × Session :=
  match s.latest.latest with
  | none => ([], .done, s)
  | some r =>
    match r.reading.expression with
    | none => (resultWidgets r, .done, s)
    | some e =>
      let calls := resultWidgets r ++ formWidgets e
      if event.prettyPressed then
        (calls, .rerun, { s with text := infixForm e, inputVersion := s.inputVersion + 1 })
      else (calls, .done, s)

/-- Draws the text of the session. A size beyond all floats shows only when there is something to
draw. -/
def Session.draw (s : Session) (backend : FontBackend) (renderer : Renderer) :
    Except SessionError Rendering × Session :=
  if floatOverflow ≤ s.settings.fontSize && (parse s.text).succeeded then
    (.error .sizeOverflow, s)
  else
    let (result, w) := renderer.drawText backend s.text ⟨s.library, [], 0⟩
    (result.mapError .render, { s with library := w.library })

def Session.present (s : Session) (backend : FontBackend) (event : UserEvent) :
    List (Container × Widget) × RunEnd × Session :=
  let (id, latest) := s.latest.request
  let s := { s with latest := latest }
  match s.settings.renderer with
  | .error e => ([], .error e, s)
  | .ok renderer =>
    let (result, s) := s.draw backend renderer
    match result with
    | .error e =>
      if e.isExpected then
        ([(.wideColumn, .error s!"Render failed: {e.message}" "🚫")], .stop, s)
      else ([], .error e, s)
    | .ok r => Session.display { s with latest := (s.latest.commit id r).2 } event

def Session.run (s : Session) (backend : FontBackend) (event : UserEvent) : RunReport :=
  let s := { s with library := { s.library with requests := [] } }
  let opening : List (Container × Widget) :=
    [(.page, .pageSettings "wide" "Arithmetic of Letters"), sizeSlider s.settings]
  match schemeNames.idxOf? s.settings.colorStrategy with
  | none => ⟨opening, .error (.unlisted s.settings.colorStrategy), s, []⟩
  | some index =>
    let widgets := opening ++ settingWidgets s.settings index ++ referenceWidgets
      ++ [expressionBox s]
    let text := (event.text.getD (some s.text)).getD ""
    let s := { s with settings := s.settings.after event, text := text }
    let (calls, result, s) := s.present backend event
    ⟨widgets ++ calls, result, s, s.library.requests⟩

/-- Runs the session once for each event, and once more at once where a run asks for it. -/
def Session.runAll (s : Session) (backend : FontBackend) : List UserEvent → List RunReport
  | [] => []
  | event :: events =>
    let first := s.run backend event
    match first.result with
    | .rerun =>
      let second := first.session.run backend .idle
      first :: second :: second.session.runAll backend events
    | _ => first :: first.session.runAll backend events

end GlyphAlgebra
