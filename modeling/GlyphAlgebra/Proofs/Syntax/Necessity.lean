import GlyphAlgebra.Proofs.Syntax.RoundTrip

namespace GlyphAlgebra

inductive Side
  | left | right
  deriving DecidableEq, Repr

variable {α : Type}

/-- The operand on one side of a tree's operator, with the parentheses around it. Parentheses around
the whole tree do not matter. -/
def Tree.side? (t : Tree α) (side : Side) : Option (Tree α) :=
  match t.bare, side with
  | binary _ left _, .left => some left
  | binary _ _ right, .right => some right
  | _, _ => none

/-- The operand that is reached from the root by turns to one side or the other. -/
def Tree.operand? (t : Tree α) : List Side → Option (Tree α)
  | [] => some t
  | side :: way => (t.side? side).bind fun operand => operand.operand? way

theorem operand?_append (t : Tree α) (way way' : List Side) :
    t.operand? (way ++ way') = (t.operand? way).bind fun operand => operand.operand? way' := by
  induction way generalizing t with
  | nil => rfl
  | cons side way ih =>
    rw [List.cons_append, Tree.operand?, Tree.operand?]
    cases t.side? side with
    | none => rfl
    | some operand => exact ih operand

theorem bare_stripParens (t : Tree α) : t.stripParens.bare = t.bare.stripParens := by
  induction t with
  | paren inner ih => exact ih
  | _ => rfl

theorem bare_not_paren (t inner : Tree α) : t.bare ≠ .paren inner := by
  induction t with
  | paren inner' ih => exact ih
  | _ => nofun

theorem side?_stripParens (t : Tree α) (side : Side) :
    t.stripParens.side? side = (t.side? side).map Tree.stripParens := by
  unfold Tree.side?
  rw [bare_stripParens]
  cases hb : t.bare with
  | literal | stray => cases side <;> rfl
  | paren inner => exact absurd hb (bare_not_paren t inner)
  | binary op left right => cases side <;> rfl

theorem operand?_stripParens (t : Tree α) (way : List Side) :
    t.stripParens.operand? way = (t.operand? way).map Tree.stripParens := by
  induction way generalizing t with
  | nil => rfl
  | cons side way ih =>
    rw [Tree.operand?, Tree.operand?, side?_stripParens]
    cases t.side? side with
    | none => rfl
    | some operand => exact ih operand

/-- What binds too loosely for its place stands in parentheses. -/
theorem Derives.paren_of_loose {s : Nat} {tokens : List Token} {e : Expr}
    (h : Derives s tokens e) (hs : s ≤ 4) (hloose : e.stripParens.tier.rank < s) :
    ∃ inner, e = .paren inner := by
  cases h with
  | literal => exact absurd hloose (Nat.not_lt.mpr hs)
  | paren => exact ⟨_, rfl⟩
  | binary op hle =>
    have hrank : op.tier.rank < s := hloose
    rw [op.tier_rank] at hrank
    omega

theorem Operator.strength_le (op : Operator) : op.strength ≤ 3 := by
  cases op <;> decide

theorem Derives.paren_of_wrapsLeft {op : Operator} {tokens : List Token} {e : Expr}
    (h : Derives op.strength tokens e) (hw : wrapsLeft op e.stripParens = true) :
    ∃ inner, e = .paren inner := by
  have hmost := op.strength_le
  rw [wrapsLeft_eq, decide_eq_true_iff, op.tier_rank] at hw
  exact h.paren_of_loose (by omega) hw

theorem Derives.paren_of_wrapsRight {op : Operator} {tokens : List Token} {e : Expr}
    (h : Derives (op.strength + 1) tokens e) (hw : wrapsRight op e.stripParens = true) :
    ∃ inner, e = .paren inner := by
  have hmost := op.strength_le
  rw [wrapsRight_eq, decide_eq_true_iff, op.tier_rank] at hw
  exact h.paren_of_loose (by omega) (by omega)

/-- The grammar derives each operand of what it derives. -/
theorem Derives.operand {s : Nat} {tokens : List Token} {e operand : Expr}
    (h : Derives s tokens e) {way : List Side} (ho : e.operand? way = some operand) :
    ∃ s' tokens', Derives s' tokens' operand := by
  have hside {s : Nat} {tokens : List Token} {e operand : Expr} (h : Derives s tokens e)
      {side : Side} (ho : e.side? side = some operand) :
      ∃ s' tokens', Derives s' tokens' operand := by
    induction h with
    | literal => cases side <;> cases ho
    | paren _ _ ih => exact ih ho
    | binary op _ hl hr =>
      cases side with
      | left => cases ho; exact ⟨_, _, hl⟩
      | right => cases ho; exact ⟨_, _, hr⟩
  induction way generalizing s tokens e with
  | nil =>
    cases ho
    exact ⟨s, tokens, h⟩
  | cons side way ih =>
    obtain ⟨next, hnext, ho⟩ := Option.bind_eq_some_iff.mp ho
    obtain ⟨s', tokens', h'⟩ := hside h hnext
    exact ih h' ho

/-- Under its parentheses an operation has operands that bind tightly enough. -/
theorem Derives.sides {s : Nat} {tokens : List Token} {e : Expr} {op : Operator}
    {left right : Expr} (h : Derives s tokens e) (he : e.stripParens = .binary op left right) :
    ∃ l lefts r rights, e.side? .left = some l ∧ l.stripParens = left ∧
      Derives op.strength lefts l ∧ e.side? .right = some r ∧ r.stripParens = right ∧
      Derives (op.strength + 1) rights r := by
  induction h with
  | literal => cases he
  | paren _ _ ih => exact ih he
  | binary op' _ hl hr =>
    cases he
    exact ⟨_, _, _, _, rfl, rfl, hl, rfl, rfl, hr⟩

theorem tokens_bare_sublist (t : Tree α) : t.bare.tokens.Sublist t.tokens := by
  induction t with
  | paren inner ih =>
    have hback : inner.tokens.Sublist (inner.tokens ++ [.closing]) := List.sublist_append_left _ _
    exact (ih.trans hback).cons _
  | _ => exact List.Sublist.refl _

/-- Parentheses around an operand that has them anyway are no more than it has. -/
theorem tokens_enclose_sublist {t u : Tree α} {wraps : Bool}
    (h : t.tokens.Sublist u.bare.tokens) (hw : wraps = true → ∃ inner, u = .paren inner) :
    (t.enclose wraps).tokens.Sublist u.tokens := by
  cases wraps with
  | false => exact h.trans (tokens_bare_sublist u)
  | true =>
    obtain ⟨inner, rfl⟩ := hw rfl
    have hinner : t.tokens.Sublist inner.tokens := h.trans (tokens_bare_sublist inner)
    exact (hinner.append_right [.closing]).cons_cons .opening

/-- The tokens of the infix form of a tree without parentheses are among those of each text that
is read as this tree with some parentheses. The induction needs room for parentheses around the
whole, which is why they are left out of what is read. -/
theorem Derives.regroup_sublist {s : Nat} {tokens : List Token} {e : Expr}
    (h : Derives s tokens e) : e.stripParens.regroup.tokens.Sublist e.bare.tokens := by
  induction h with
  | literal => exact List.Sublist.refl _
  | paren _ _ ih => exact ih
  | binary op _ hl hr ihl ihr =>
    have hleft := tokens_enclose_sublist ihl fun hw =>
      hl.paren_of_wrapsLeft ((wrapsLeft_eq op _).trans hw)
    have hright := tokens_enclose_sublist ihr fun hw =>
      hr.paren_of_wrapsRight ((wrapsRight_eq op _).trans hw)
    exact hleft.append (hright.cons_cons (.operator op))

/-- The infix form adds no more parentheses than are needed. Every text that is read as the tree,
with parentheses somewhere in it, has them around each operand that the infix form wraps; it has all
tokens of the infix form in their order, and so at least as many pairs of parentheses. -/
theorem infixForm_wraps_needed {text : String} {e t : Expr}
    (h : (parse text).expression = some e) (ht : e.stripParens = t) :
    (∀ way op left right, t.operand? way = some (.binary op left right) →
      (wrapsLeft op left = true → ∃ inner, e.operand? (way ++ [.left]) = some (.paren inner)) ∧
      (wrapsRight op right = true →
        ∃ inner, e.operand? (way ++ [.right]) = some (.paren inner))) ∧
    (infixForm t).toList = spaced t.regroup.tokens ∧
    t.regroup.tokens.Sublist ((scan text).map PlacedToken.token) ∧
    ∀ pair ∈ [Token.opening, .closing],
      t.regroup.tokens.count pair ≤ ((scan text).map PlacedToken.token).count pair := by
  obtain ⟨hd, hs⟩ := parse_tokens h
  subst ht
  have htokens : (scan text).map PlacedToken.token = e.tokens := scans_text_iff.mp hs
  have hsublist : e.stripParens.regroup.tokens.Sublist e.tokens :=
    hd.regroup_sublist.trans (tokens_bare_sublist e)
  rw [htokens]
  refine ⟨?_, ?_, hsublist, fun pair _ => hsublist.count_le pair⟩
  · intro way op left right hop
    rw [operand?_stripParens] at hop
    obtain ⟨y, hy, hstrip⟩ := Option.map_eq_some_iff.mp hop
    obtain ⟨s', tokens', hderives⟩ := hd.operand hy
    obtain ⟨l, lefts, r, rights, hl, rfl, hleft, hr, rfl, hright⟩ := hderives.sides hstrip
    constructor
    · intro hw
      obtain ⟨inner, rfl⟩ := hleft.paren_of_wrapsLeft hw
      exact ⟨inner, by simp [operand?_append, hy, Tree.operand?, hl]⟩
    · intro hw
      obtain ⟨inner, rfl⟩ := hright.paren_of_wrapsRight hw
      exact ⟨inner, by simp [operand?_append, hy, Tree.operand?, hr]⟩
  · rw [← infixForm_regroup]
    exact (regroup_derives _).infixForm_toList

theorem infixForm_wraps_needed_inside :
    let text := "(A & ((B - C))) ^\tD"
    let e : Expr := .binary .xor (.paren (.binary .and (.literal "A")
      (.paren (.paren (.binary .sub (.literal "B") (.literal "C")))))) (.literal "D")
    let t : Expr := .binary .xor (.binary .and (.literal "A")
      (.binary .sub (.literal "B") (.literal "C"))) (.literal "D")
    (parse text).expression = some e ∧ e.stripParens = t ∧ infixForm t = "A & (B - C) ^ D" ∧
      (∃ inner, e.operand? [.left, .right] = some (.paren inner)) ∧
      t.regroup.tokens.count .opening = 1 ∧
      1 ≤ ((scan text).map PlacedToken.token).count .opening := by
  intro text e t
  have h : (parse text).expression = some e := by decide +kernel
  have ht : e.stripParens = t := rfl
  obtain ⟨hwraps, -, -, hcount⟩ := infixForm_wraps_needed h ht
  exact ⟨h, ht, by decide +kernel, (hwraps [.left] .and _ _ rfl).2 rfl, by decide,
    hcount .opening (List.mem_cons_self ..)⟩

end GlyphAlgebra
