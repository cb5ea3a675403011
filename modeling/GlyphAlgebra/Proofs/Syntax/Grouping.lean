import GlyphAlgebra.Proofs.Syntax.Spelling
import GlyphAlgebra.Proofs.Syntax.Tiers

namespace GlyphAlgebra

variable {α : Type}

/-- The tightest tier of which a tree may be a phrase. -/
def Tree.tier : Tree α → Tier
  | binary op _ _ => op.tier
  | _ => .atom

def Tree.enclose (wraps : Bool) (t : Tree α) : Tree α :=
  if wraps then .paren t else t

/-- The tree with parentheses around each left operand that is looser than its operator, and each
right operand that is not tighter than it. -/
def Tree.regroup : Tree α → Tree α
  | literal text => literal text
  | paren inner => paren inner.regroup
  | binary op left right =>
    binary op (left.regroup.enclose (left.tier.rank < op.tier.rank))
      (right.regroup.enclose (right.tier.rank ≤ op.tier.rank))
  | stray value => stray value

theorem regroup_tier (t : Tree α) : t.regroup.tier = t.tier := by
  cases t <;> rfl

theorem stripParens_enclose (wraps : Bool) (t : Tree α) :
    (t.enclose wraps).stripParens = t.stripParens := by
  cases wraps <;> rfl

theorem literals_enclose (wraps : Bool) (t : Tree α) :
    (t.enclose wraps).literals = t.literals := by
  cases wraps <;> rfl

theorem stripParens_regroup (t : Tree α) : t.regroup.stripParens = t.stripParens := by
  induction t with
  | literal => rfl
  | paren inner ih => exact ih
  | binary op left right ihl ihr =>
    simp only [Tree.regroup, Tree.stripParens, stripParens_enclose, ihl, ihr]
  | stray => rfl

theorem literals_regroup (t : Tree α) : t.regroup.literals = t.literals := by
  induction t with
  | literal => rfl
  | paren inner ih => exact ih
  | binary op left right ihl ihr =>
    simp only [Tree.regroup, Tree.literals, literals_enclose, ihl, ihr]
  | stray => rfl

theorem enclose_derives {s s' : Nat} {e : Expr} {wraps : Bool} (h : Derives s e.tokens e)
    (hs : wraps = false → s' ≤ s) :
    Derives s' (e.enclose wraps).tokens (e.enclose wraps) := by
  cases wraps with
  | true => exact .paren s' (h.weaken (Nat.zero_le s))
  | false => exact h.weaken (hs rfl)

/-- With these parentheses the grammar derives a tree from its tokens. -/
theorem regroup_derives (e : Expr) : Derives e.tier.rank e.regroup.tokens e.regroup := by
  induction e with
  | literal text => exact .literal _ text
  | paren inner ih => exact .paren _ (ih.weaken (Nat.zero_le _))
  | binary op left right ihl ihr =>
    have hrank := op.tier_rank
    apply Derives.binary op (Nat.le_of_eq hrank)
    · apply enclose_derives ihl
      intro h
      have hle := of_decide_eq_false h
      omega
    · apply enclose_derives ihr
      intro h
      have hle := of_decide_eq_false h
      omega
  | stray value => exact value.elim

theorem wrapsLeft_eq (op : Operator) (e : Expr) :
    wrapsLeft op e = decide (e.tier.rank < op.tier.rank) := by
  cases e with
  | binary inner left right => simp [wrapsLeft, Tree.tier, Operator.tier_rank]
  | stray value => exact value.elim
  | _ => cases op <;> rfl

theorem wrapsRight_eq (op : Operator) (e : Expr) :
    wrapsRight op e = decide (e.tier.rank ≤ op.tier.rank) := by
  cases e with
  | binary inner left right => simp [wrapsRight, Tree.tier, Operator.tier_rank]
  | stray value => exact value.elim
  | _ => cases op <;> rfl

theorem wrapText_enclose {wraps : Expr → Bool} {e : Expr} {b : Bool}
    (hp : wraps (.paren e) = false) (hb : wraps e = b) :
    wrapText (wraps (e.enclose b)) (infixForm (e.enclose b)) = wrapText b (infixForm e) := by
  cases b with
  | true =>
    have he : e.enclose true = .paren e := rfl
    rw [he, hp, infixForm_paren]
    rfl
  | false =>
    have he : e.enclose false = e := rfl
    rw [he, hb]

/-- The infix form adds just these parentheses. -/
theorem infixForm_regroup (e : Expr) : infixForm e.regroup = infixForm e := by
  induction e with
  | literal => rfl
  | paren inner ih => rw [Tree.regroup, infixForm_paren, infixForm_paren, ih]
  | binary op left right ihl ihr =>
    have hl := wrapsLeft_eq op left.regroup
    have hr := wrapsRight_eq op right.regroup
    rw [regroup_tier] at hl hr
    rw [Tree.regroup, infixForm_binary, infixForm_binary, wrapText_enclose rfl hl,
      wrapText_enclose rfl hr, ihl, ihr, wrapsLeft_eq, wrapsRight_eq]
  | stray value => exact value.elim

end GlyphAlgebra
