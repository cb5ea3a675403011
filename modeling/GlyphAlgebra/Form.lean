import GlyphAlgebra.Tree.Fold

namespace GlyphAlgebra

/-- The operand of a call is a literal, perhaps in parentheses. -/
def callSeparator (left right : Expr) : String :=
  if left.bare.isLiteral && right.bare.isLiteral then "," else ", "

def callForm (e : Expr) : String :=
  e.fold (m := Id)
    { literal := fun text => s!"'{text}'"
      paren := fun _ inner => inner
      binary := fun op left right first second =>
        s!"{op.name}({first}{callSeparator left right}{second})"
      stray := nofun }

/-- A left operand needs parentheses where it binds looser than its parent. -/
def wrapsLeft (op : Operator) : Expr → Bool
  | .binary inner _ _ => inner.strength < op.strength
  | _ => false

/-- A right operand needs parentheses where it binds no tighter than its parent. -/
def wrapsRight (op : Operator) : Expr → Bool
  | .binary inner _ _ => inner.strength ≤ op.strength
  | _ => false

def wrapText (wraps : Bool) (text : String) : String :=
  if wraps then s!"({text})" else text

/-- The infix form keeps the parentheses of the tree and adds those without which it would
be read as another tree. -/
def infixForm (e : Expr) : String :=
  e.fold (m := Id)
    { literal := id
      paren := fun _ inner => s!"({inner})"
      binary := fun op left right first second =>
        wrapText (wrapsLeft op left) first ++ s!" {op.symbol} "
          ++ wrapText (wrapsRight op right) second
      stray := nofun }

/-- The prefix form writes each operator before its operands, and no other parentheses. -/
def prefixForm (e : Expr) : String :=
  e.fold (m := Id)
    { literal := id
      paren := fun _ inner => inner
      binary := fun op _ _ first second => s!"({op.symbol} {first} {second})"
      stray := nofun }

end GlyphAlgebra
