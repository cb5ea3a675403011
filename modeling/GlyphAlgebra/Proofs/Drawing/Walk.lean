import GlyphAlgebra.Proofs.Drawing.Glyph

namespace GlyphAlgebra

variable {backend : FontBackend} {spec : String}

theorem render_literal (text : String) :
    render backend spec (.literal text) = drawGlyph backend spec text := by
  rw [render, Tree.fold_eq_reduce]
  rfl

theorem render_paren (t : Tree String) :
    render backend spec (.paren t) = render backend spec t := by
  simp only [render, Tree.fold_eq_reduce, Tree.reduce]
  exact bind_pure _

theorem render_binary (op : Operator) (left right : Tree String) :
    render backend spec (.binary op left right) =
      render backend spec left >>= fun a =>
        render backend spec right >>= fun b => drawCombination op a b := by
  simp only [render, Tree.fold_eq_reduce]
  rfl

theorem render_stray (text : String) :
    render backend spec (.stray text) = throw (.stray ⟨text⟩) := by
  rw [render, Tree.fold_eq_reduce]
  rfl

/-- Parentheses do not matter for a drawing, or for what it takes and leaves. -/
theorem render_stripParens (t : Tree String) :
    render backend spec t.stripParens = render backend spec t := by
  induction t with
  | literal => rfl
  | paren inner ih => rw [render_paren, ← ih]; rfl
  | binary op left right ihl ihr => rw [Tree.stripParens, render_binary, render_binary, ihl, ihr]
  | stray => rfl

/-- States that go on alike: they have the same colors to come and the same font for the spec. -/
def Alike (backend : FontBackend) (spec : String) (s s' : RenderState) : Prop :=
  s.strategy = s'.strategy ∧
    (s.library.load backend spec).1 = (s'.library.load backend spec).1

theorem glyph_alike {text : String} {s s' : RenderState} (h : Alike backend spec s s') :
    ((drawGlyph backend spec text).run s).1 = ((drawGlyph backend spec text).run s').1 ∧
      Alike backend spec ((drawGlyph backend spec text).run s).2
        ((drawGlyph backend spec text).run s').2 := by
  obtain ⟨hs, hl⟩ := h
  rw [drawGlyph_run, drawGlyph_run, hs, ← hl]
  cases s'.strategy.next with
  | error e => exact ⟨rfl, hs, hl⟩
  | ok next =>
    have hagain : ((s.library.load backend spec).2.load backend spec).1 =
        ((s'.library.load backend spec).2.load backend spec).1 := by
      rw [load_again, load_again, hl]
    dsimp only
    cases (s.library.load backend spec).1 with
    | error e => exact ⟨rfl, rfl, hagain⟩
    | ok font =>
      dsimp only
      cases font.drawn text next.1 with
      | error e => exact ⟨rfl, rfl, hagain⟩
      | ok drawn => exact ⟨rfl, rfl, hagain⟩

theorem combination_run (op : Operator) (a b : Bitmap) (s : RenderState) :
    (drawCombination op a b).run s =
      match Bitmap.combine op a b with
      | .error e => (.error (.bitmap e), s)
      | .ok bitmap =>
        (.ok bitmap, { s with log := s.log ++ [.composite op bitmap.width bitmap.height] }) := by
  rw [drawCombination, run_bind, liftRender_run]
  cases Bitmap.combine op a b <;> rfl

/-- Drawings from states that go on alike are the same, and leave such states behind. -/
theorem render_alike (t : Tree String) {s s' : RenderState} (h : Alike backend spec s s') :
    ((render backend spec t).run s).1 = ((render backend spec t).run s').1 ∧
      Alike backend spec ((render backend spec t).run s).2 ((render backend spec t).run s').2 := by
  induction t generalizing s s' with
  | literal text =>
    rw [render_literal]
    exact glyph_alike h
  | paren inner ih =>
    rw [render_paren]
    exact ih h
  | binary op left right ihl ihr =>
    obtain ⟨hleft, haleft⟩ := ihl h
    rw [render_binary, run_bind, run_bind]
    rcases hl : (render backend spec left).run s with ⟨_ | a, s₁⟩ <;>
      rcases hl' : (render backend spec left).run s' with ⟨_ | a', s₁'⟩ <;>
      rw [hl, hl'] at hleft haleft <;> cases hleft
    · exact ⟨rfl, haleft⟩
    · obtain ⟨hright, haright⟩ := ihr haleft
      dsimp only at hright haright ⊢
      rw [run_bind, run_bind]
      rcases hr : (render backend spec right).run s₁ with ⟨_ | b, s₂⟩ <;>
        rcases hr' : (render backend spec right).run s₁' with ⟨_ | b', s₂'⟩ <;>
        rw [hr, hr'] at hright haright <;> cases hright
      · exact ⟨rfl, haright⟩
      · dsimp only
        rw [combination_run, combination_run]
        cases Bitmap.combine op a b with
        | error e => exact ⟨rfl, haright⟩
        | ok bitmap => exact ⟨rfl, haright⟩
  | stray text =>
    rw [render_stray]
    exact ⟨rfl, h⟩

end GlyphAlgebra
