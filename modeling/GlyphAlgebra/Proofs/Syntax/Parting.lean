import GlyphAlgebra.Proofs.Syntax.Spelling

namespace GlyphAlgebra

/-- The literals of a tree that have something behind them when it is spelled as it stands. -/
def Tree.followed {α : Type} : Tree α → List String
  | literal _ => []
  | paren inner => inner.literals
  | binary _ left right => left.literals ++ right.followed
  | stray _ => []

theorem followed_subset_literals {α : Type} {t : Tree α} {text : String} (h : text ∈ t.followed) :
    text ∈ t.literals := by
  induction t with
  | literal => simp [Tree.followed] at h
  | paren => exact h
  | binary op left right _ ihr =>
    rcases List.mem_append.mp h with h | h
    · exact List.mem_append_left _ h
    · exact List.mem_append_right _ (ihr h)
  | stray => simp [Tree.followed] at h

theorem literal_mem_tokens {α : Type} {t : Tree α} {text : String} :
    .literal text ∈ t.tokens ↔ text ∈ t.literals := by
  induction t with
  | literal => simp [Tree.tokens, Tree.literals]
  | paren inner ih => simp [Tree.tokens, Tree.literals, ih]
  | binary op left right ihl ihr => simp [Tree.tokens, Tree.literals, ihl, ihr]
  | stray => simp [Tree.tokens, Tree.literals]

/-- Behind an operand the infix form puts a blank or a parenthesis. -/
def Bounded (rest : List Token) : Prop :=
  ∃ d after, spaced rest = d :: after ∧ breakClass d = .other

theorem bounded_closing (rest : List Token) : Bounded (.closing :: rest) :=
  ⟨')', spaced rest, rfl, by decide⟩

theorem bounded_operator (op : Operator) (rest : List Token) : Bounded (.operator op :: rest) :=
  ⟨' ', op.symbol.toList ++ [' '] ++ spaced rest, rfl, by decide⟩

theorem parted_operand {e : Expr} (hl : ∀ text ∈ e.literals, IsLiteral text) {rest : List Token}
    (hb : Bounded rest) : Parted (e.tokens ++ rest) ↔
      (∀ text ∈ e.literals, endsInPrepend text = false) ∧ Parted rest := by
  induction e generalizing rest with
  | literal text =>
    obtain ⟨d, after, hspaced, hd⟩ := hb
    have htext := hl text (by simp [Tree.literals])
    have hapart : Apart text (d :: after) ↔ endsInPrepend text = false := apart_iff htext hd
    simp [Tree.tokens, Tree.literals, Parted, hspaced, hapart]
  | paren inner ih =>
    have hi := ih hl (bounded_closing rest)
    simpa [Tree.tokens, Tree.literals, Parted] using hi
  | binary op left right ihl ihr =>
    have hleft := ihl (fun text ht => hl text (List.mem_append_left _ ht))
      (bounded_operator op (right.tokens ++ rest))
    have hright := ihr (fun text ht => hl text (List.mem_append_right _ ht)) hb
    have hcons : Parted (.operator op :: (right.tokens ++ rest)) ↔ Parted (right.tokens ++ rest) :=
      Iff.rfl
    rw [hcons, hright] at hleft
    simp only [Tree.tokens, Tree.literals, List.append_assoc, List.cons_append, hleft,
      List.mem_append, or_imp, forall_and, and_assoc]
  | stray value => exact value.elim

theorem parted_iff {e : Expr} (hl : ∀ text ∈ e.literals, IsLiteral text) :
    Parted e.tokens ↔ ∀ text ∈ e.followed, endsInPrepend text = false := by
  induction e with
  | literal text => simp [Tree.tokens, Tree.followed, Parted, spaced, apart_nil]
  | paren inner ih =>
    have hinner : ∀ text ∈ inner.literals, IsLiteral text := hl
    have hi := parted_operand hinner (bounded_closing [])
    simpa [Tree.tokens, Tree.followed, Parted] using hi
  | binary op left right ihl ihr =>
    have hleft := parted_operand (fun text ht => hl text (List.mem_append_left _ ht))
      (bounded_operator op right.tokens)
    have hright := ihr fun text ht => hl text (List.mem_append_right _ ht)
    have hcons : Parted (.operator op :: right.tokens) ↔ Parted right.tokens := Iff.rfl
    rw [hcons, hright] at hleft
    simp only [Tree.tokens, Tree.followed, hleft, List.mem_append, or_imp, forall_and]
  | stray value => exact value.elim

end GlyphAlgebra
