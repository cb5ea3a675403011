import GlyphAlgebra.Font.Backend
import GlyphAlgebra.Font.Spec
import GlyphAlgebra.Text.Lowercase

namespace GlyphAlgebra

inductive FontSource
  | builtin
  | file (name : String)
  deriving DecidableEq, Repr

structure Font where
  source : FontSource
  size : Float
  face : Typeface

inductive FontError
  | invalid (e : FontSpecError)
  | noUsable (spec : String)
  | fault (f : FontFault)
  deriving DecidableEq, Repr

def FontError.message : FontError → String
  | invalid e => e.message
  | noUsable spec => s!"No usable font for {quoted spec}"
  | fault f => f.message

/-- Families for which the built-in font stands. -/
def genericFamilies : List String :=
  ["default", "monospace", "sans-serif", "serif", "system-ui"]

def isGeneric (family : String) : Bool :=
  genericFamilies.contains (String.ofList (lowercase family.toList))

def familySources (family : String) : List FontSource :=
  if isGeneric family then [.builtin]
  else [.file family, .file s!"{family}.ttf", .file s!"{family}.otf"]

def FontSpec.sources (spec : FontSpec) : List FontSource :=
  spec.families.flatMap familySources

/-- The face a source gives; a font that is not scalable is none. -/
def FontBackend.face? (backend : FontBackend) (source : FontSource) (size : Float) :
    Except FontFault (Option Typeface) :=
  match source with
  | .builtin => backend.builtin size
  | .file name => (backend.file name size).map some

/-- Tries the sources in order, past those that are missing or not scalable. The sources that
were tried come first. -/
def FontBackend.firstOf (backend : FontBackend) (size : Float) :
    List FontSource → List FontSource × Except FontFault (Option Font)
  | [] => ([], .ok none)
  | source :: sources =>
    match backend.face? source size with
    | .ok (some face) => ([source], .ok (some ⟨source, size, face⟩))
    | .error ⟨.value, message⟩ => ([source], .error ⟨.value, message⟩)
    | .error ⟨.runtime, message⟩ => ([source], .error ⟨.runtime, message⟩)
    | .ok none | .error ⟨.system, _⟩ =>
      let (tried, result) := backend.firstOf size sources
      (source :: tried, result)

structure FontRequest where
  source : FontSource
  size : Float
  deriving DecidableEq, Repr

def FontBackend.resolve (backend : FontBackend) (spec : String) :
    List FontRequest × Except FontError Font :=
  match FontSpec.ofText spec with
  | .error e => ([], .error (.invalid e))
  | .ok parsed =>
    let (tried, result) := backend.firstOf parsed.size parsed.sources
    (tried.map fun source => ⟨source, parsed.size⟩,
      match result with
      | .error f => .error (.fault f)
      | .ok none => .error (.noUsable spec)
      | .ok (some font) => .ok font)

/-- The fonts of the latest specs, the last one used first, and all requests so far. -/
structure FontLibrary where
  recent : List (String × Font)
  requests : List FontRequest

def FontLibrary.empty : FontLibrary := ⟨[], []⟩

def libraryCapacity : Nat := 64

def FontLibrary.touch (library : FontLibrary) (spec : String) (font : Font) : FontLibrary :=
  let others := library.recent.filter (·.1 ≠ spec)
  { library with recent := ((spec, font) :: others).take libraryCapacity }

/-- The font of a spec; only a spec that is not remembered goes to the font system, and only one
that could be resolved is remembered. -/
def FontLibrary.load (library : FontLibrary) (backend : FontBackend) (spec : String) :
    Except FontError Font × FontLibrary :=
  match library.recent.lookup spec with
  | some font => (.ok font, library.touch spec font)
  | none =>
    let (requests, result) := backend.resolve spec
    let library := { library with requests := library.requests ++ requests }
    match result with
    | .ok font => (.ok font, library.touch spec font)
    | .error e => (.error e, library)

end GlyphAlgebra
