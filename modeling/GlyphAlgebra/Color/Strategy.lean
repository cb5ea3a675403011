import GlyphAlgebra.Color.Reader

namespace GlyphAlgebra

inductive Scheme
  /-- Turns the hue of the start color by one more step for each color. -/
  | hslWheel (start : Hsl) (step : Float)
  | lchWheel (start : Lch) (step : Float)
  | uniform (color : Color)
  | palette (colors : List Color) (nonempty : colors ≠ [])
  /-- Gives each of the colors once. -/
  | once (colors : List Color)
  /-- Gives colors of any choice without end. -/
  | endless (colors : Nat → Color)

/-- A scheme and how many of its colors have been taken. -/
structure Strategy where
  scheme : Scheme
  taken : Nat

inductive StrategyError
  | exhausted
  | emptyPalette
  | unregistered (name : String)
  | colorText (e : ColorTextError)
  deriving DecidableEq, Repr

def StrategyError.message : StrategyError → String
  | exhausted => "Color strategy is exhausted"
  | emptyPalette => "Palette must contain at least one color"
  | unregistered name => quoted name
  | colorText e => e.message

/-- The color at a position; only a list that is used up has none. -/
def Scheme.color? : Scheme → Nat → Option Color
  | hslWheel start step, k => some (.hsl (start.turnHue (k.toFloat * step)))
  | lchWheel start step, k => some (.lch (start.turnHue (k.toFloat * step)))
  | uniform color, _ => some color
  | palette colors _, k => colors[k % colors.length]?
  | once colors, k => colors[k]?
  | endless colors, k => some (colors k)

def Scheme.ofPalette (colors : List Color) : Except StrategyError Scheme :=
  if h : colors = [] then .error .emptyPalette else .ok (.palette colors h)

def Strategy.start (scheme : Scheme) : Strategy := ⟨scheme, 0⟩

def Strategy.next (s : Strategy) : Except StrategyError (Color × Strategy) :=
  match s.scheme.color? s.taken with
  | some color => .ok (color, { s with taken := s.taken + 1 })
  | none => .error .exhausted

def Strategy.skip (s : Strategy) : Nat → Strategy × Option StrategyError
  | 0 => (s, none)
  | n + 1 =>
    match s.next with
    | .ok (_, rest) => rest.skip n
    | .error e => (s, some e)

end GlyphAlgebra
