import GlyphAlgebra.Proofs.Drawing.Outcome

namespace GlyphAlgebra

variable {backend : FontBackend} {spec : String} {α : Type}

/-- The nodes of a tree, each with the number of its first literal. -/
def Tree.nodes : Nat → Tree α → List (Nat × Tree α)
  | k, literal text => [(k, literal text)]
  | k, paren inner => (k, paren inner) :: inner.nodes k
  | k, binary op left right =>
    (k, binary op left right) :: (left.nodes k ++ right.nodes (k + left.literals.length))
  | k, stray value => [(k, stray value)]

theorem literals_nodes {k j : Nat} {t u : Tree α} (h : (j, u) ∈ t.nodes k) :
    u.literals.zipIdx j ⊆ t.literals.zipIdx k := by
  induction t generalizing k with
  | literal text =>
    cases List.mem_singleton.mp h
    exact List.Subset.refl _
  | paren inner ih =>
    rcases List.mem_cons.mp h with heq | h
    · cases heq
      exact List.Subset.refl _
    · exact ih h
  | binary op left right ihl ihr =>
    rcases List.mem_cons.mp h with heq | h
    · cases heq
      exact List.Subset.refl _
    · rw [Tree.literals, List.zipIdx_append]
      rcases List.mem_append.mp h with h | h
      · exact List.subset_append_of_subset_left _ (ihl h)
      · exact List.subset_append_of_subset_right _ (ihr h)
  | stray value =>
    cases List.mem_singleton.mp h
    exact List.Subset.refl _

theorem node_self (k : Nat) (t : Tree α) : (k, t) ∈ t.nodes k := by
  cases t <;> exact List.mem_cons_self ..

theorem exists_literal (e : Expr) : ∃ text, e.literals[0]? = some text := by
  induction e with
  | literal text => exact ⟨text, rfl⟩
  | paren _ ih => exact ih
  | binary op left right ihl _ =>
    obtain ⟨text, ht⟩ := ihl
    exact ⟨text, List.getElem?_append_left (List.getElem?_eq_some_iff.mp ht).1 ▸ ht⟩
  | stray value => exact value.elim

theorem drawGlyph_metrics {text : String} {b : Bitmap} {s s' : RenderState}
    (h : (drawGlyph backend spec text).run s = (.ok b, s')) :
    ∃ font ascent descent, (s.library.load backend spec).1 = .ok font ∧
      font.face.metrics = .ok (ascent, descent) := by
  obtain ⟨color, font, entry, _, hfont, hdrawn, _⟩ := drawGlyph_ok h
  obtain ⟨mask, hmask⟩ : ∃ mask, font.face.mask? text = .ok mask := by
    rcases drawn_ok hdrawn with ⟨hm, _⟩ | ⟨mask, _, hm, _⟩
    · exact ⟨none, hm⟩
    · exact ⟨some mask, hm⟩
  obtain ⟨box, hbox, _⟩ := mask?_ok hmask
  obtain ⟨ascent, descent, hmetrics, _⟩ := box_height hbox
  exact ⟨font, ascent, descent, hfont, hmetrics⟩

/-- An expression is drawn if the glyphs of all its literals are: no operator fails. Each node has
the extent of its tree in the face of the font. It has a pixel at least, and is as high as the face
unless it is one pixel high. -/
theorem render_of_glyphs {e : Expr} {s : RenderState}
    (h : ∀ k text, e.literals[k]? = some text → ∃ b, ((drawGlyph backend spec text).run
      { s with strategy := s.strategy.after k }).1 = .ok b) :
    ∃ font ascent descent, (s.library.load backend spec).1 = .ok font ∧
      font.face.metrics = .ok (ascent, descent) ∧
      (∃ b s', (render backend spec e.toTree).run s = (.ok b, s') ∧
        (b.width, b.height) = e.extent font.face) ∧
      ∀ k u, (k, u) ∈ e.nodes 0 → ∃ b s',
        (render backend spec (Expr.toTree u)).run { s with strategy := s.strategy.after k } =
          (.ok b, s') ∧
        (b.width, b.height) = u.extent font.face ∧ 1 ≤ b.width ∧ 1 ≤ b.height ∧
        (b.height = 1 ∨ (b.height : Int) = ascent + descent) := by
  obtain ⟨text, htext⟩ := exists_literal e
  obtain ⟨b₀, hb₀⟩ := h 0 text htext
  obtain ⟨font, ascent, descent, hfont, hmetrics⟩ := drawGlyph_metrics (Prod.ext hb₀ rfl)
  have hnode : ∀ k u, (k, u) ∈ e.nodes 0 → ∃ b s',
      (render backend spec (Expr.toTree u)).run { s with strategy := s.strategy.after k } =
        (.ok b, s') ∧ (b.width, b.height) = u.extent font.face := by
    intro k u hu
    have hnone : failure? ((render backend spec (Expr.toTree u)).run
        { s with strategy := s.strategy.after k }).1 = none := by
      rw [render_failure (alike_refl _), List.findSome?_eq_none_iff]
      intro literal hliteral
      have hget := List.mem_zipIdx_iff_getElem?.mp (literals_nodes hu hliteral)
      obtain ⟨b, hb⟩ := h literal.2 literal.1 hget
      rw [literalFailure, hb]
      rfl
    obtain ⟨b, hb⟩ := ok_of_failure?_none hnone
    obtain ⟨font', hfont', hsize⟩ := render_size (Prod.ext hb rfl)
    cases hfont.symm.trans hfont'
    exact ⟨b, _, Prod.ext hb rfl, hsize.trans (extent_toTree font.face u)⟩
  refine ⟨font, ascent, descent, hfont, hmetrics, hnode 0 e (node_self 0 e), fun k u hu => ?_⟩
  obtain ⟨b, s', hrender, hsize⟩ := hnode k u hu
  obtain ⟨hw, hh⟩ := Prod.mk.inj hsize
  have hpos := extent_pos font.face u
  have hheight := extent_height hmetrics u
  exact ⟨b, s', hrender, hsize, by omega, by omega, by omega⟩

/-- A face three pixels high, in which one letter is wider than all other texts. -/
def barFace : Typeface where
  metrics := .ok (2, 1)
  advance text := .ok (if text = "A" then 3 else 2)
  ink _ := .ok ⟨0, -1, [[255]]⟩

def barState : RenderState where
  strategy := .start (.uniform (.rgb ⟨0, 0, 1, 1⟩))
  library := ⟨[("bar", ⟨.builtin, 1, barFace⟩)], []⟩
  log := []

def barRow : Expr :=
  .binary .concat (.paren (.binary .add (.literal "A") (.literal " "))) (.literal "B")

theorem bars_drawn (k : Nat) (text : String) (h : barRow.literals[k]? = some text) :
    ∃ b, ((drawGlyph .empty "bar" text).run
      { barState with strategy := barState.strategy.after k }).1 = .ok b := by
  have hall : ∀ literal ∈ barRow.literals.zipIdx,
      literalFailure .empty "bar" barState literal = none := by decide +kernel
  have hmem : (text, k) ∈ barRow.literals.zipIdx := List.mem_zipIdx_iff_getElem?.mpr h
  have hnone := hall _ hmem
  rw [literalFailure] at hnone
  exact ok_of_failure?_none hnone

theorem render_of_glyphs_bars :
    (∀ k text, barRow.literals[k]? = some text → ∃ b, ((drawGlyph .empty "bar" text).run
      { barState with strategy := barState.strategy.after k }).1 = .ok b) ∧
    ∃ b s', (render .empty "bar" barRow.toTree).run barState = (.ok b, s') ∧
      (b.width, b.height) = (5, 3) := by
  refine ⟨bars_drawn, ?_⟩
  obtain ⟨font, _, _, hfont, _, ⟨b, s', hb, hsize⟩, _⟩ := render_of_glyphs bars_drawn
  have hbar : (barState.library.load .empty "bar").1 = .ok ⟨.builtin, 1, barFace⟩ := rfl
  cases hbar.symm.trans hfont
  have hextent : barRow.extent barFace = (5, 3) := by decide +kernel
  exact ⟨b, s', hb, hsize.trans hextent⟩

end GlyphAlgebra
