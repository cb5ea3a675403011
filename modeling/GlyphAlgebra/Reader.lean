import GlyphAlgebra.Token
import GlyphAlgebra.Tree

namespace GlyphAlgebra

/-- What an unfinished expression waits for. -/
inductive Frame
  | group
  | operand (left : Expr) (op : Operator)
  deriving DecidableEq, Repr

/-- The open frames, innermost first, and the operand read last unless one is wanted. -/
structure Reader where
  frames : List Frame
  current : Option Expr
  deriving DecidableEq, Repr

inductive Expectation
  | operand | continuation | closing | ending
  deriving DecidableEq, Repr

structure SyntaxError where
  found : Option PlacedToken
  expectation : Expectation
  deriving DecidableEq, Repr

/-- Applies the waiting operators that bind at least as tightly as the given strength. -/
def settle (strength : Nat) (e : Expr) : List Frame → Expr × List Frame
  | .operand left op :: frames =>
    if strength ≤ op.strength then settle strength (.binary op left e) frames
    else (e, .operand left op :: frames)
  | frames => (e, frames)

def Reader.advance (r : Reader) (t : PlacedToken) : Except SyntaxError Reader :=
  match r.current, t.token with
  | none, .literal text => .ok ⟨r.frames, some (.literal text)⟩
  | none, .opening => .ok ⟨.group :: r.frames, none⟩
  | none, _ => .error ⟨some t, .operand⟩
  | some e, .operator op =>
    let (left, frames) := settle op.strength e r.frames
    .ok ⟨.operand left op :: frames, none⟩
  | some e, .closing =>
    match settle 0 e r.frames with
    | (inner, .group :: frames) => .ok ⟨frames, some (.paren inner)⟩
    | _ => .error ⟨some t, .ending⟩
  | some _, _ => .error ⟨some t, .continuation⟩

def Reader.finish (r : Reader) : Except SyntaxError Expr :=
  match r.current with
  | none => .error ⟨none, .operand⟩
  | some e =>
    match settle 0 e r.frames with
    | (whole, []) => .ok whole
    | _ => .error ⟨none, .closing⟩

def parseTokens (tokens : List PlacedToken) : Except SyntaxError Expr := do
  (← tokens.foldlM Reader.advance ⟨[], none⟩).finish

end GlyphAlgebra
