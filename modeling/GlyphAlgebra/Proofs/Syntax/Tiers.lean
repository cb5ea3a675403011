import GlyphAlgebra.Grammar

namespace GlyphAlgebra

/-- The kinds of phrases, from those that hold together loosest to those that do so tightest. -/
inductive Tier
  | concat | sum | xor | bit | atom
  deriving DecidableEq, Repr

def Tier.tighter : Tier → Tier
  | concat => sum
  | sum => xor
  | xor => bit
  | bit => atom
  | atom => atom

def Tier.rank : Tier → Nat
  | concat => 0
  | sum => 1
  | xor => 2
  | bit => 3
  | atom => 4

def Operator.tier : Operator → Tier
  | concat => .concat
  | add | sub => .sum
  | xor => .xor
  | and | or => .bit

/-- The grammar, tier by tier. A phrase of a tier is one of the next tier, or continues a phrase
of its own tier by an operator of that tier and a phrase of the next one. -/
inductive Phrase : Tier → List Token → Expr → Prop
  | literal (text : String) : Phrase .atom [.literal text] (.literal text)
  | paren {inner : List Token} {e : Expr} (h : Phrase .concat inner e) :
      Phrase .atom (.opening :: inner ++ [.closing]) (.paren e)
  | binary (op : Operator) {lefts rights : List Token} {left right : Expr}
      (hl : Phrase op.tier lefts left) (hr : Phrase op.tier.tighter rights right) :
      Phrase op.tier (lefts ++ .operator op :: rights) (.binary op left right)
  | tighter {tier : Tier} {tokens : List Token} {e : Expr} (h : Phrase tier.tighter tokens e) :
      Phrase tier tokens e

theorem Operator.tier_rank (op : Operator) : op.tier.rank = op.strength := by
  cases op <;> rfl

theorem Operator.tighter_rank (op : Operator) : op.tier.tighter.rank = op.strength + 1 := by
  cases op <;> rfl

theorem Tier.rank_le_tighter (tier : Tier) : tier.rank ≤ tier.tighter.rank := by
  cases tier <;> decide

theorem Tier.rank_tighter (tier : Tier) (h : tier.rank < 4) :
    tier.tighter.rank = tier.rank + 1 := by
  cases tier with
  | atom => exact absurd h (by decide)
  | _ => rfl

theorem Tier.rank_le_atom (tier : Tier) : tier.rank ≤ 4 := by
  cases tier <;> decide

theorem Tier.rank_inj {t u : Tier} (h : t.rank = u.rank) : t = u := by
  cases t <;> cases u <;> first | rfl | cases h

/-- A phrase counts as one of every looser tier. -/
theorem Phrase.loosen {t u : Tier} {tokens : List Token} {e : Expr} (h : Phrase t tokens e)
    (hle : u.rank ≤ t.rank) : Phrase u tokens e := by
  obtain ⟨n, hn⟩ := Nat.exists_eq_add_of_le hle
  induction n generalizing u with
  | zero =>
    have htu := Tier.rank_inj hn
    subst u
    exact h
  | succ n ih =>
    have hatom := t.rank_le_atom
    have hnext := u.rank_tighter (by omega)
    exact .tighter (ih (by omega) (by omega))

theorem Phrase.derives {tier : Tier} {tokens : List Token} {e : Expr}
    (h : Phrase tier tokens e) : Derives tier.rank tokens e := by
  induction h with
  | literal text => exact .literal _ text
  | paren _ ih => exact .paren _ ih
  | binary op _ _ ihl ihr =>
    rw [op.tier_rank] at ihl ⊢
    rw [op.tighter_rank] at ihr
    exact .binary op (Nat.le_refl _) ihl ihr
  | @tighter tier _ _ _ ih => exact ih.weaken tier.rank_le_tighter

theorem Derives.phrase {s : Nat} {tokens : List Token} {e : Expr} (h : Derives s tokens e)
    {tier : Tier} (hs : tier.rank ≤ s) : Phrase tier tokens e := by
  induction h generalizing tier with
  | literal _ text => exact (Phrase.literal text).loosen tier.rank_le_atom
  | paren _ _ ih => exact (Phrase.paren (ih (Nat.zero_le _))).loosen tier.rank_le_atom
  | @binary s op lefts rights left right hle _ _ ihl ihr =>
    have hl : Phrase op.tier lefts left := ihl (Nat.le_of_eq op.tier_rank)
    have hr : Phrase op.tier.tighter rights right := ihr (Nat.le_of_eq op.tighter_rank)
    exact (Phrase.binary op hl hr).loosen (by rw [op.tier_rank]; omega)

/-- The grammar by tiers and the one by strengths derive the same expressions. -/
theorem phrase_iff_derives {tier : Tier} {tokens : List Token} {e : Expr} :
    Phrase tier tokens e ↔ Derives tier.rank tokens e :=
  ⟨Phrase.derives, fun h => h.phrase (Nat.le_refl _)⟩

end GlyphAlgebra
