import GlyphAlgebra.Proofs.Tree.Calls
import GlyphAlgebra.Render

namespace GlyphAlgebra

theorem run_get_bind {β : Type} (f : RenderState → RenderM β) (s : RenderState) :
    (get >>= f).run s = (f s).run s := rfl

theorem run_set_bind {β : Type} (f : Unit → RenderM β) (s s' : RenderState) :
    (set s' >>= f).run s = (f ()).run s' := rfl

theorem takeColor_run (s : RenderState) :
    takeColor.run s =
      match s.strategy.next with
      | .ok (color, strategy) => (.ok color, { s with strategy := strategy })
      | .error e => (.error (.strategy e), s) := by
  rw [takeColor, run_get_bind]
  cases s.strategy.next <;> rfl

theorem loadFont_run (backend : FontBackend) (spec : String) (s : RenderState) :
    (loadFont backend spec).run s =
      ((s.library.load backend spec).1.mapError .font,
        { s with library := (s.library.load backend spec).2 }) := by
  rw [loadFont, run_get_bind]
  dsimp only
  rw [run_set_bind]
  cases (s.library.load backend spec).1 <;> rfl

theorem liftRender_run {ε α : Type} (f : ε → RenderError) (r : Except ε α) (s : RenderState) :
    (liftRender f r).run s = (r.mapError f, s) := by
  cases r <;> rfl

theorem lookup_touch (library : FontLibrary) (spec : String) (font : Font) :
    (library.touch spec font).recent.lookup spec = some font := by
  simp [FontLibrary.touch, libraryCapacity]

/-- Loading a spec does not change what comes of loading it again. -/
theorem load_again (library : FontLibrary) (backend : FontBackend) (spec : String) :
    ((library.load backend spec).2.load backend spec).1 = (library.load backend spec).1 := by
  unfold FontLibrary.load
  cases hl : library.recent.lookup spec with
  | some font => simp [lookup_touch]
  | none =>
    cases hr : (backend.resolve spec).2 with
    | ok font => simp [hr, lookup_touch]
    | error e => simp [hr, hl]

/-- What a font makes of a text in a color, and how the log tells of it. -/
def Font.drawn (font : Font) (text : String) (color : Color) :
    Except RenderError (Bitmap × LogEntry) :=
  match font.face.mask? text with
  | .error fault => .error (fault.atText text)
  | .ok none => .ok (.placeholder, .placeholder text)
  | .ok (some mask) =>
    match color.toRgba with
    | .error e => .error (.color e)
    | .ok rgba => .ok (mask.fill rgba, .glyph text mask.width mask.height rgba)

/-- A text is drawn as a placeholder or as its mask in the bytes of the color. -/
theorem drawn_ok {font : Font} {text : String} {color : Color} {drawn : Bitmap × LogEntry}
    (h : font.drawn text color = .ok drawn) :
    font.face.mask? text = .ok none ∧ drawn.1 = .placeholder ∨
      ∃ mask rgba, font.face.mask? text = .ok (some mask) ∧ color.toRgba = .ok rgba ∧
        drawn.1 = mask.fill rgba := by
  unfold Font.drawn at h
  cases hm : font.face.mask? text with
  | error f => rw [hm] at h; cases h
  | ok mask =>
    rw [hm] at h
    cases mask with
    | none => cases h; exact .inl ⟨rfl, rfl⟩
    | some mask =>
      dsimp only at h
      cases hc : color.toRgba with
      | error e => rw [hc] at h; cases h
      | ok rgba => rw [hc] at h; cases h; exact .inr ⟨mask, rgba, rfl, rfl, rfl⟩

theorem drawGlyph_run (backend : FontBackend) (spec text : String) (s : RenderState) :
    (drawGlyph backend spec text).run s =
      match s.strategy.next with
      | .error e => (.error (.strategy e), s)
      | .ok (color, strategy) =>
        let library := (s.library.load backend spec).2
        match (s.library.load backend spec).1 with
        | .error e => (.error (.font e), ⟨strategy, library, s.log⟩)
        | .ok font =>
          match font.drawn text color with
          | .error e => (.error e, ⟨strategy, library, s.log⟩)
          | .ok (bitmap, entry) => (.ok bitmap, ⟨strategy, library, s.log ++ [entry]⟩) := by
  rw [drawGlyph, run_bind, takeColor_run]
  cases hn : s.strategy.next with
  | error e => rfl
  | ok next =>
    dsimp only
    rw [run_bind, loadFont_run]
    cases hl : (s.library.load backend spec).1 with
    | error e => rfl
    | ok font =>
      have hok : (Except.ok font).mapError RenderError.font = .ok font := rfl
      simp only [hok, run_bind, liftRender_run, Font.drawn]
      cases hm : font.face.mask? text with
      | error fault => rfl
      | ok mask =>
        cases mask with
        | none => rfl
        | some mask => cases hc : next.1.toRgba <;> rfl

theorem drawGlyph_ok {backend : FontBackend} {spec text : String} {b : Bitmap}
    {s s' : RenderState} (h : (drawGlyph backend spec text).run s = (.ok b, s')) :
    ∃ color font entry, s.strategy.next = .ok (color, s'.strategy) ∧
      (s.library.load backend spec).1 = .ok font ∧ font.drawn text color = .ok (b, entry) ∧
      s'.library = (s.library.load backend spec).2 := by
  rw [drawGlyph_run] at h
  cases hn : s.strategy.next with
  | error e => rw [hn] at h; cases h
  | ok next =>
    rw [hn] at h
    dsimp only at h
    cases hl : (s.library.load backend spec).1 with
    | error e => rw [hl] at h; cases h
    | ok font =>
      rw [hl] at h
      dsimp only at h
      cases hd : font.drawn text next.1 with
      | error e => rw [hd] at h; cases h
      | ok drawn =>
        rw [hd] at h
        cases h
        exact ⟨next.1, font, drawn.2, rfl, rfl, hd, rfl⟩

end GlyphAlgebra
