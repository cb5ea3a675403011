import GlyphAlgebra.Diagnostic

namespace GlyphAlgebra

structure Reading where
  source : String
  expression : Option Expr
  failure : Option Diagnostic
  deriving DecidableEq, Repr

inductive NoExpression
  | failed (d : Diagnostic)
  | absent
  deriving DecidableEq, Repr

def NoExpression.message : NoExpression → String
  | failed d => d.message
  | absent => "MatchResult holds neither an expression nor a failure"

namespace Reading

def succeeded (r : Reading) : Bool := r.expression.isSome

def failed (r : Reading) : Bool := r.failure.isSome

def message (r : Reading) : String :=
  match r.failure with
  | some d => d.message
  | none => ""

/-- The expression; a failure comes first where both are given. -/
def demand (r : Reading) : Except NoExpression Expr :=
  match r.failure, r.expression with
  | some d, _ => .error (.failed d)
  | none, some e => .ok e
  | none, none => .error .absent

end Reading

def parse (text : String) : Reading :=
  match parseTokens (scan text) with
  | .ok e => ⟨text, some e, none⟩
  | .error e => ⟨text, none, some (e.diagnostic text.toList)⟩

end GlyphAlgebra
