import GlyphAlgebra.Proofs.Drawing.Extent

namespace GlyphAlgebra

variable {backend : FontBackend} {spec : String} {α : Type}

def failure? {ε β : Type} : Except ε β → Option ε
  | .error err => some err
  | .ok _ => none

/-- Why a text is not drawn in the color of the given number, if it is not. -/
def literalFailure (backend : FontBackend) (spec : String) (s : RenderState)
    (literal : String × Nat) : Option RenderError :=
  failure? ((drawGlyph backend spec literal.1).run
    { s with strategy := s.strategy.after literal.2 }).1

theorem ok_of_failure?_none {ε β : Type} {r : Except ε β} (h : failure? r = none) :
    ∃ b, r = .ok b := by
  cases r with
  | error err => cases h
  | ok b => exact ⟨b, rfl⟩

theorem alike_refl (s : RenderState) : Alike backend spec s s := ⟨rfl, rfl⟩

/-- A drawing moves on by one color for each literal, and changes nothing else that matters. -/
theorem render_moves {t : Tree String} {b : Bitmap} {s s' : RenderState}
    (h : (render backend spec t).run s = (.ok b, s')) :
    Alike backend spec s' { s with strategy := s.strategy.after t.literals.length } := by
  obtain ⟨hload, colors, hlen, hgives, _⟩ := render_composed h
  exact ⟨by rw [← hlen]; exact gives_after hgives, hload⟩

theorem after_after (s : Strategy) (m n : Nat) : (s.after m).after n = s.after (m + n) := by
  simp [Strategy.after, Nat.add_assoc]

/-- A drawing from a state with some colors taken leaves one with more of them taken. -/
theorem alike_moves {t : Tree String} {b : Bitmap} {s₀ s s' : RenderState} {k : Nat}
    (h : Alike backend spec s { s₀ with strategy := s₀.strategy.after k })
    (hb : (render backend spec t).run s = (.ok b, s')) :
    Alike backend spec s' { s₀ with strategy := s₀.strategy.after (k + t.literals.length) } := by
  obtain ⟨hs, hl⟩ := render_moves hb
  refine ⟨?_, hl.trans h.2⟩
  rw [hs, h.1, ← after_after]

theorem literals_toTree (e : Expr) : e.toTree.literals = e.literals := by
  induction e with
  | literal => rfl
  | paren _ ih => exact ih
  | binary op left right ihl ihr =>
    rw [Tree.literals, ← ihl, ← ihr]
    rfl
  | stray value => exact value.elim

theorem render_toTree_literal (text : String) :
    render backend spec (Expr.toTree (.literal text)) = drawGlyph backend spec text :=
  render_literal text

theorem render_toTree_paren (e : Expr) :
    render backend spec (Expr.toTree (.paren e)) = render backend spec e.toTree :=
  render_paren e.toTree

theorem render_toTree_binary (op : Operator) (left right : Expr) :
    render backend spec (Expr.toTree (.binary op left right)) =
      render backend spec left.toTree >>= fun a =>
        render backend spec right.toTree >>= fun b => drawCombination op a b :=
  render_binary op left.toTree right.toTree

/-- A drawing fails as the first of its literals does that is not drawn, and only then. The
literals are numbered from a number of their own here, and the state is like the one that the
numbers refer to. -/
theorem render_failure {e : Expr} {s₀ s : RenderState} {k : Nat}
    (h : Alike backend spec s { s₀ with strategy := s₀.strategy.after k }) :
    failure? ((render backend spec e.toTree).run s).1 =
      (e.literals.zipIdx k).findSome? (literalFailure backend spec s₀) := by
  induction e generalizing s k with
  | literal text =>
    rw [render_toTree_literal, (glyph_alike h).1, Tree.literals, List.zipIdx_singleton,
      List.findSome?_singleton]
    rfl
  | paren inner ih =>
    rw [render_toTree_paren]
    exact ih h
  | binary op left right ihl ihr =>
    rw [render_toTree_binary, Tree.literals, List.zipIdx_append, List.findSome?_append, ← ihl h,
      run_bind]
    rcases hleft : (render backend spec (Expr.toTree left)).run s with ⟨err | a, s₁⟩
    · rfl
    · have halike := alike_moves h hleft
      rw [literals_toTree] at halike
      rw [← ihr halike]
      dsimp only
      rw [run_bind]
      rcases hright : (render backend spec (Expr.toTree right)).run s₁ with ⟨err | c, s₂⟩
      · rfl
      · obtain ⟨d, hd⟩ := combination_of_drawn hleft op c s₂
        dsimp only
        rw [hd]
        rfl
  | stray value => exact value.elim

end GlyphAlgebra
