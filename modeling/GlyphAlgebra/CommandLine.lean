import GlyphAlgebra.CommandLine.Arguments
import GlyphAlgebra.CommandLine.Target
import GlyphAlgebra.Form

namespace GlyphAlgebra

/-- What ends a run other than an exit status. -/
inductive CommandError
  | noScheme
  | noSize
  | renderer (e : RendererError)
  | render (e : RenderError)
  | path (e : PathError)
  deriving DecidableEq, Repr

def CommandError.message : CommandError → String
  | noScheme => "unhashable type: 'list'"
  | noSize => "'<=' not supported between instances of 'list' and 'int'"
  | renderer e => e.message
  | render e => e.message
  | path e => e.message

structure CommandOutcome where
  exit : Except CommandError Nat
  stdout : List String
  stderr : List String
  /-- The path that was opened and the image that was written to it. -/
  written : Option (String × Bitmap)
  requests : List FontRequest

/-- The files in the directory of the run, which was empty before. -/
def CommandOutcome.files (outcome : CommandOutcome) : List (String × Bitmap) :=
  match outcome.written with
  | none => []
  | some (path, bitmap) =>
    match targetName path with
    | .ok (some name) => [(name, bitmap)]
    | _ => []

def Rgba.tupleText (c : Rgba) : String :=
  s!"({c.red.toNat}, {c.green.toNat}, {c.blue.toNat}, {c.alpha.toNat})"

def LogEntry.text : LogEntry → String
  | placeholder text =>
    s!"DEBUG letter_arithmetic.rasterizer: glyph {quoted text} has no extent, using placeholder"
  | glyph text width height color =>
    s!"DEBUG letter_arithmetic.rasterizer: glyph {quoted text} {width}x{height} color="
      ++ color.tupleText
  | composite op width height =>
    s!"DEBUG letter_arithmetic.compositor: composite {op.name} -> {width}x{height}"

def parseFailureText (d : Diagnostic) : String :=
  s!"DEBUG letter_arithmetic.parser: parse failed at offset {d.offset}: {d.message}"

def Arguments.forms (a : Arguments) (e : Expr) : List String :=
  (if a.showsCallForm then [callForm e] else [])
    ++ (if a.showsInfixForm then [infixForm e] else [])
    ++ (if a.showsPrefixForm then [prefixForm e] else [])

/-- The path to write to; an empty one is as good as none. -/
def Arguments.target? (a : Arguments) : Option String :=
  match a.output with
  | some path => if path = "" then none else some path
  | none => none

/-- The renderer that the options describe; without a family, the mark of an empty list stands for
it. -/
def Arguments.renderer (a : Arguments) : Except CommandError Renderer :=
  match a.colors, a.fontSize with
  | none, _ => .error .noScheme
  | some _, none => .error .noSize
  | some colors, some size =>
    (Renderer.ofSchemeName colors size (a.fontFamily.getD "[]")).mapError .renderer

def Arguments.told (a : Arguments) (lines : List String) : List String :=
  if a.verbose then lines else []

/-- Draws an expression and writes the drawing to a file; nothing is written unless the drawing is
complete. -/
def Arguments.draw (a : Arguments) (backend : FontBackend) (e : Expr) (path : String) :
    CommandOutcome :=
  let forms := a.forms e
  match a.renderer with
  | .error e => ⟨.error e, forms, [], none, []⟩
  | .ok renderer =>
    let (result, w) := renderer.drawTree backend e.toTree .empty
    let told := a.told (w.log.map LogEntry.text)
    let requests := w.library.requests
    match result with
    | .error e =>
      if e.isExpected then
        ⟨.ok 1, forms, told ++ [s!"Render error: {e.message}"], none, requests⟩
      else ⟨.error (.render e), forms, told, none, requests⟩
    | .ok bitmap =>
      match targetName path with
      | .error e => ⟨.error (.path e), forms, told, none, requests⟩
      | .ok _ =>
        ⟨.ok 0, forms ++ [s!"{bitmap.width}x{bitmap.height} -> {path}"], told,
          some (path, bitmap), requests⟩

def Arguments.run (a : Arguments) (backend : FontBackend) : CommandOutcome :=
  let reading := parse a.expression
  match reading.expression, a.target? with
  | none, _ =>
    let told := a.told (reading.failure.toList.map parseFailureText)
    ⟨.ok 2, [], told ++ [s!"Syntax error: {reading.message}"], none, []⟩
  | some e, none => ⟨.ok 0, a.forms e, [], none, []⟩
  | some e, some path => a.draw backend e path

def runCommand (backend : FontBackend) (arguments : List String) : CommandOutcome :=
  match parseArguments arguments with
  | .ok a => a.run backend
  | .error .help => ⟨.ok 0, [], [], none, []⟩
  | .error (.usage e) => ⟨.ok 2, [], [s!"letter_arithmetic: error: {e.message}"], none, []⟩

end GlyphAlgebra
