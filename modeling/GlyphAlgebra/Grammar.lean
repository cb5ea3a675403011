import GlyphAlgebra.Token
import GlyphAlgebra.Tree

namespace GlyphAlgebra

/-- The tokens that spell an expression. Outside parentheses it applies only operators of at least
the given strength, and its right operands only stronger ones. -/
inductive Derives : Nat → List Token → Expr → Prop
  | literal (strength : Nat) (text : String) : Derives strength [.literal text] (.literal text)
  | paren (strength : Nat) {inner : List Token} {e : Expr} (h : Derives 0 inner e) :
      Derives strength (.opening :: inner ++ [.closing]) (.paren e)
  | binary {strength : Nat} (op : Operator) {lefts rights : List Token} {left right : Expr}
      (h : strength ≤ op.strength) (hl : Derives op.strength lefts left)
      (hr : Derives (op.strength + 1) rights right) :
      Derives strength (lefts ++ .operator op :: rights) (.binary op left right)

def WellFormed (tokens : List Token) : Prop :=
  ∃ e, Derives 0 tokens e

/-- The tokens with which some whole expression begins. -/
def Viable (tokens : List Token) : Prop :=
  ∃ rest, WellFormed (tokens ++ rest)

namespace Derives

theorem weaken {s t : Nat} {tokens : List Token} {e : Expr} (h : Derives s tokens e)
    (hle : t ≤ s) : Derives t tokens e := by
  cases h with
  | literal _ text => exact .literal t text
  | paren _ h => exact .paren t h
  | binary op h hl hr => exact .binary op (Nat.le_trans hle h) hl hr

theorem ne_nil {s : Nat} {tokens : List Token} {e : Expr} (h : Derives s tokens e) :
    tokens ≠ [] := by
  cases h <;> simp

theorem literals_eq {s : Nat} {tokens : List Token} {e : Expr} (h : Derives s tokens e) :
    e.literals = tokens.filterMap fun
      | .literal text => some text
      | _ => none := by
  induction h with
  | literal => rfl
  | paren _ _ ih => simpa [Tree.literals] using ih
  | binary _ _ _ _ ihl ihr => simp [Tree.literals, ihl, ihr]

end Derives

end GlyphAlgebra
