import GlyphAlgebra.Operator

namespace GlyphAlgebra

/-- Expression trees in which a value of type `α` may stand where an expression should. -/
inductive Tree (α : Type)
  | literal (text : String)
  | paren (inner : Tree α)
  | binary (op : Operator) (left right : Tree α)
  | stray (value : α)
  deriving DecidableEq, Repr

/-- An expression has nothing stray in it. -/
abbrev Expr := Tree Empty

/-- A value met where an expression should stand. -/
structure NotAnExpression where
  text : String
  deriving DecidableEq, Repr

def NotAnExpression.message (e : NotAnExpression) : String :=
  s!"Not an expression: {quoted e.text}"

namespace Tree

variable {α β : Type}

def map (f : α → β) : Tree α → Tree β
  | literal text => literal text
  | paren inner => paren (inner.map f)
  | binary op left right => binary op (left.map f) (right.map f)
  | stray value => stray (f value)

def toExpr : Tree String → Except NotAnExpression Expr
  | literal text => .ok (literal text)
  | paren inner => do return paren (← inner.toExpr)
  | binary op left right => do return binary op (← left.toExpr) (← right.toExpr)
  | stray text => .error ⟨text⟩

/-- The tree without its outermost parentheses. -/
def bare : Tree α → Tree α
  | paren inner => inner.bare
  | t => t

def stripParens : Tree α → Tree α
  | literal text => literal text
  | paren inner => inner.stripParens
  | binary op left right => binary op left.stripParens right.stripParens
  | stray value => stray value

def literals : Tree α → List String
  | literal text => [text]
  | paren inner => inner.literals
  | binary _ left right => left.literals ++ right.literals
  | stray _ => []

def isLiteral : Tree α → Bool
  | literal _ => true
  | _ => false

end Tree

def Expr.toTree (e : Expr) : Tree String :=
  Tree.map Empty.elim e

end GlyphAlgebra
