import GlyphAlgebra.Text.Quoted

namespace GlyphAlgebra

/-- The six ways to combine two drawings. -/
inductive Operator
  | concat | add | sub | and | or | xor
  deriving DecidableEq, Repr

structure UnknownName where
  name : String
  family : String
  deriving DecidableEq, Repr

def UnknownName.message (e : UnknownName) : String :=
  s!"{quoted e.name} is not a valid {e.family}"

namespace Operator

def all : List Operator := [concat, add, sub, and, or, xor]

def name : Operator → String
  | concat => "concat"
  | add => "add"
  | sub => "sub"
  | and => "and"
  | or => "or"
  | xor => "xor"

def symbol : Operator → String
  | concat => "||"
  | add => "+"
  | sub => "-"
  | and => "&"
  | or => "|"
  | xor => "^"

/-- The higher binds the tighter; operators of one strength associate to the left. -/
def strength : Operator → Nat
  | concat => 0
  | add | sub => 1
  | xor => 2
  | and | or => 3

def ofName (text : String) : Except UnknownName Operator :=
  match all.find? (·.name = text) with
  | some op => .ok op
  | none => .error ⟨text, "OperatorKind"⟩

end Operator

end GlyphAlgebra
