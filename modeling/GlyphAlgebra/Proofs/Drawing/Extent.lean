import GlyphAlgebra.Proofs.Drawing.Layout
import GlyphAlgebra.Proofs.Drawing.Reference

namespace GlyphAlgebra

variable {backend : FontBackend} {spec : String} {α : Type}

/-- The size of the drawing of a text: a single pixel where it is blank or has no extent. -/
def Typeface.extent (face : Typeface) (text : String) : Nat × Nat :=
  match face.box text with
  | .ok box => if box.isEmpty text then (1, 1) else (box.width.toNat, box.height.toNat)
  | .error _ => (1, 1)

def Tree.extent (face : Typeface) : Tree α → Nat × Nat
  | literal text => face.extent text
  | paren inner => inner.extent face
  | binary op left right => op.canvas (left.extent face) (right.extent face)
  | stray _ => (1, 1)

theorem box_of_parts {face : Typeface} {text : String} {ascent descent : Int} {advance : Float}
    (hm : face.metrics = .ok (ascent, descent)) (ha : face.advance text = .ok advance) :
    face.box text = match ceiling advance with
      | .error e => .error (.advance e)
      | .ok width => .ok ⟨width, ascent + descent, ascent⟩ := by
  rw [Typeface.box, hm, ha]
  cases hw : ceiling advance with
  | error e => show ((ceiling advance).mapError _ >>= _) = _; rw [hw]; rfl
  | ok width => show ((ceiling advance).mapError _ >>= _) = _; rw [hw]; rfl

theorem box_height {face : Typeface} {text : String} {box : GlyphBox}
    (h : face.box text = .ok box) :
    ∃ ascent descent, face.metrics = .ok (ascent, descent) ∧ box.height = ascent + descent := by
  cases hm : face.metrics with
  | error f => rw [Typeface.box, hm] at h; cases h
  | ok metrics =>
    cases ha : face.advance text with
    | error f => rw [Typeface.box, hm, ha] at h; cases h
    | ok advance =>
      rw [box_of_parts hm ha] at h
      cases hw : ceiling advance with
      | error e => rw [hw] at h; cases h
      | ok width =>
        rw [hw] at h
        cases h
        exact ⟨metrics.1, metrics.2, rfl, rfl⟩

theorem mask?_of_box {face : Typeface} {text : String} {box : GlyphBox}
    (h : face.box text = .ok box) :
    face.mask? text = if box.isEmpty text then .ok none else match face.ink text with
      | .error f => .error (.font f)
      | .ok ink => .ok (some (ink.mask box.width.toNat box.height.toNat box.ascent)) := by
  rw [Typeface.mask?, h]
  cases he : box.isEmpty text with
  | true => show (if box.isEmpty text then _ else _) = _; rw [he]; rfl
  | false =>
    show (if box.isEmpty text then _ else _) = _
    rw [he]
    cases face.ink text <;> rfl

/-- A mask covers the box of its text; only an empty box has none. -/
theorem mask?_ok {face : Typeface} {text : String} {mask : Option Mask}
    (h : face.mask? text = .ok mask) :
    ∃ box, face.box text = .ok box ∧
      match mask with
      | none => box.isEmpty text = true
      | some mask => box.isEmpty text = false ∧ ∃ ink : Ink,
          mask = ink.mask box.width.toNat box.height.toNat box.ascent := by
  cases hb : face.box text with
  | error f => rw [Typeface.mask?, hb] at h; cases h
  | ok box =>
    refine ⟨box, rfl, ?_⟩
    rw [mask?_of_box hb] at h
    cases he : box.isEmpty text with
    | true =>
      rw [he] at h
      cases h
      rfl
    | false =>
      rw [he] at h
      cases hi : face.ink text with
      | error f => rw [hi] at h; cases h
      | ok ink =>
        rw [hi] at h
        cases h
        exact ⟨rfl, ink, rfl⟩

theorem mask_size {face : Typeface} {text : String} {mask : Mask}
    (h : face.mask? text = .ok (some mask)) : mask.size = face.extent text := by
  obtain ⟨box, hbox, hempty, ink, rfl⟩ := mask?_ok h
  simp only [Typeface.extent, hbox, hempty]
  rfl

theorem drawn_size {font : Font} {text : String} {color : Color} {drawn : Bitmap × LogEntry}
    (h : font.drawn text color = .ok drawn) : drawn.1.size = font.face.extent text := by
  rcases drawn_ok h with ⟨hm, hb⟩ | ⟨mask, rgba, hm, _, hb⟩
  · obtain ⟨box, hbox, hempty⟩ := mask?_ok hm
    simp only [hb, Typeface.extent, hbox, hempty, if_true]
    rfl
  · rw [hb, ← mask_size hm]
    rfl

theorem typeface_extent_pos (face : Typeface) (text : String) :
    0 < (face.extent text).1 ∧ 0 < (face.extent text).2 := by
  unfold Typeface.extent
  split
  next box _ =>
    split
    next => decide
    next h =>
      simp only [GlyphBox.isEmpty, Bool.or_eq_true, decide_eq_true_eq] at h
      dsimp only
      omega
  next => decide

theorem extent_pos (face : Typeface) (t : Tree α) :
    0 < (t.extent face).1 ∧ 0 < (t.extent face).2 := by
  induction t with
  | literal text => exact typeface_extent_pos face text
  | paren _ ih => exact ih
  | binary op left right ihl _ => exact canvas_pos op ihl (right.extent face)
  | stray => exact ⟨Nat.one_pos, Nat.one_pos⟩

theorem hasCells_of_extent {face : Typeface} {t : Tree α} {b : Bitmap}
    (h : b.size = t.extent face) : b.HasCells := by
  have hpos := extent_pos face t
  rwa [← h] at hpos

/-- All drawings in one face are as high as the face, or only one pixel high. -/
theorem extent_height {face : Typeface} {ascent descent : Int}
    (h : face.metrics = .ok (ascent, descent)) (t : Tree α) :
    (t.extent face).2 = 1 ∨ ((t.extent face).2 : Int) = ascent + descent := by
  induction t with
  | literal text =>
    simp only [Tree.extent, Typeface.extent]
    split
    next box hbox =>
      obtain ⟨ascent', descent', hm, hheight⟩ := box_height hbox
      cases h.symm.trans hm
      split
      next => exact .inl rfl
      next hempty =>
        simp only [GlyphBox.isEmpty, Bool.or_eq_true, decide_eq_true_eq] at hempty
        right
        dsimp only
        omega
    next => exact .inl rfl
  | paren _ ih => exact ih
  | binary op left right ihl ihr =>
    rw [Tree.extent, canvas_height]
    omega
  | stray => exact .inl rfl

theorem extent_toTree (face : Typeface) (e : Expr) : e.toTree.extent face = e.extent face := by
  induction e with
  | literal => rfl
  | paren _ ih => exact ih
  | binary op left right ihl ihr =>
    have hl : (Tree.map Empty.elim left : Tree String).extent face = left.extent face := ihl
    have hr : (Tree.map Empty.elim right : Tree String).extent face = right.extent face := ihr
    simp only [Expr.toTree, Tree.map, Tree.extent, hl, hr]
  | stray value => exact value.elim

/-- The size of a drawing, which hangs on the tree and the face alone. -/
theorem render_size {t : Tree String} {b : Bitmap} {s s' : RenderState}
    (h : (render backend spec t).run s = (.ok b, s')) :
    ∃ font, (s.library.load backend spec).1 = .ok font ∧ b.size = t.extent font.face := by
  induction t generalizing b s s' with
  | literal text =>
    rw [render_literal] at h
    obtain ⟨color, font, entry, _, hfont, hdrawn, _⟩ := drawGlyph_ok h
    exact ⟨font, hfont, drawn_size hdrawn⟩
  | paren inner ih =>
    rw [render_paren] at h
    exact ih h
  | binary op left right ihl ihr =>
    rw [render_binary] at h
    obtain ⟨a, s₁, hleft, h⟩ := run_bind_ok h
    obtain ⟨c, s₂, hright, h⟩ := run_bind_ok h
    obtain ⟨font, hfont, ha⟩ := ihl hleft
    obtain ⟨font', hfont', hc⟩ := ihr hright
    rw [(render_composed hleft).1, hfont] at hfont'
    cases hfont'
    obtain ⟨d, hd, hsize, _⟩ := combine_ok op (hasCells_of_extent ha) c
    cases (combination_ok h).1.symm.trans hd
    exact ⟨font, hfont, by rw [hsize, ha, hc]; rfl⟩
  | stray text =>
    rw [render_stray] at h
    cases h

/-- The operator itself cannot fail: what was drawn has pixels. -/
theorem combination_of_drawn {left : Tree String} {a : Bitmap} {s s₁ : RenderState}
    (h : (render backend spec left).run s = (.ok a, s₁)) (op : Operator) (c : Bitmap)
    (s₂ : RenderState) :
    ∃ d, (drawCombination op a c).run s₂ =
      (.ok d, { s₂ with log := s₂.log ++ [.composite op d.width d.height] }) := by
  obtain ⟨font, _, hsize⟩ := render_size h
  obtain ⟨d, hd, _⟩ := combine_ok op (hasCells_of_extent hsize) c
  exact ⟨d, by rw [combination_run, hd]⟩

end GlyphAlgebra
