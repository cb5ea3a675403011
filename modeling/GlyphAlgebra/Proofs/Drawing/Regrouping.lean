import GlyphAlgebra.Proofs.Drawing.Nodes
import GlyphAlgebra.Proofs.Drawing.Stopping

namespace GlyphAlgebra

variable {backend : FontBackend} {spec : String}

/-- Centering in two steps comes to the same as in one where there are no more than two heights. -/
theorem centering_nested {inner middle outer full : Nat} (hi : inner = 1 ∨ inner = full)
    (hm : middle = 1 ∨ middle = full) (ho : outer = 1 ∨ outer = full) (him : inner ≤ middle)
    (hmo : middle ≤ outer) :
    Bitmap.centering outer middle + Bitmap.centering middle inner =
      Bitmap.centering outer inner := by
  unfold Bitmap.centering
  omega

/-- Bitmaps side by side may be grouped either way if each is one pixel high or as high as all
others are. -/
theorem beside_assoc {a b c ab bc : Bitmap} {full : Nat} (ha : a.HasCells) (hb : b.HasCells)
    (hfa : a.height = 1 ∨ a.height = full) (hfb : b.height = 1 ∨ b.height = full)
    (hfc : c.height = 1 ∨ c.height = full) (hab : a.beside b = .ok ab)
    (hbc : b.beside c = .ok bc) : ∃ d, a.beside bc = .ok d ∧ ab.beside c = .ok d := by
  obtain ⟨habsize, habpixel⟩ := beside_pixel ha hab
  obtain ⟨hbcsize, hbcpixel⟩ := beside_pixel hb hbc
  obtain ⟨habw, habh⟩ := Prod.mk.inj habsize
  obtain ⟨hbcw, hbch⟩ := Prod.mk.inj hbcsize
  have habcells : ab.HasCells := by
    unfold Raster.HasCells at ha ⊢
    omega
  obtain ⟨one, hone⟩ := beside_ok ha bc
  obtain ⟨other, hother⟩ := beside_ok habcells c
  obtain ⟨honesize, honepixel⟩ := beside_pixel ha hone
  obtain ⟨hothersize, hotherpixel⟩ := beside_pixel habcells hother
  have hheight : max ab.height c.height = max a.height bc.height := by omega
  have hsize : one.size = other.size := by
    rw [honesize, hothersize, hheight, hbcw, habw, Nat.add_assoc]
  rw [hheight] at hotherpixel
  rw [← habh] at habpixel
  rw [← hbch] at hbcpixel
  have hfab : ab.height = 1 ∨ ab.height = full := by omega
  have hfbc : bc.height = 1 ∨ bc.height = full := by omega
  have hfull : max a.height bc.height = 1 ∨ max a.height bc.height = full := by omega
  -- Each bitmap comes to lie in the same rows, be it centered once or twice.
  have hleft := centering_nested hfa hfab hfull (by omega) (by omega)
  have hmiddle := centering_nested hfb hfab hfull (by omega) (by omega)
  have hmiddle' := centering_nested hfb hfbc hfull (by omega) (by omega)
  have hright := centering_nested hfc hfbc hfull (by omega) (by omega)
  have hpixel : ∀ x y : Int, one.pixel x y = other.pixel x y := by
    intro x y
    rw [honepixel, hotherpixel]
    by_cases hxa : x < a.width
    · have hxab : x < ab.width := by omega
      rw [if_pos hxa, if_pos hxab, habpixel, if_pos hxa, Int.sub_sub, hleft]
    · rw [if_neg hxa, hbcpixel]
      by_cases hxab : x < ab.width
      · have hxb : x - a.width < b.width := by omega
        rw [if_pos hxab, if_pos hxb, habpixel, if_neg hxa, Int.sub_sub, Int.sub_sub, hmiddle,
          hmiddle']
      · have hxb : ¬x - a.width < b.width := by omega
        have hx : x - a.width - b.width = x - ab.width := by omega
        rw [if_neg hxab, if_neg hxb, hx, Int.sub_sub, hright]
  have heq := ext_pixel hsize hpixel
  exact ⟨one, hone, heq ▸ hother⟩

/-- Other heights do not allow this. -/
example :
    let column (height : Nat) : Bitmap := Raster.tabulate 1 height fun _ _ => ⟨0, 0, 0, 255⟩
    let one := (column 1).beside (column 2) >>= (column 3).beside
    let other := (column 3).beside (column 1) >>= fun left => left.beside (column 2)
    one.toOption ≠ other.toOption := by decide +kernel

/-- In one face a drawing has one of two heights. -/
theorem exists_full_height (face : Typeface) :
    ∃ full : Nat, ∀ t : Tree String, (t.extent face).2 = 1 ∨ (t.extent face).2 = full := by
  cases hm : face.metrics with
  | ok metrics =>
    obtain ⟨ascent, descent⟩ := metrics
    refine ⟨(ascent + descent).toNat, fun t => ?_⟩
    have hheight := extent_height hm t
    omega
  | error f =>
    -- Without metrics there is no box, and only single pixels are left.
    refine ⟨1, fun t => .inl ?_⟩
    induction t with
    | literal text =>
      have hbox : face.box text = .error (.font f) := by rw [Typeface.box, hm]; rfl
      rw [Tree.extent, Typeface.extent, hbox]
    | paren _ ih => exact ih
    | binary op left right ihl ihr =>
      rw [Tree.extent, canvas_height, ihl, ihr]
      rfl
    | stray => rfl

/-- A drawing has the extent of its tree in the face of the font, and leaves the font at hand. -/
theorem render_in_font {t : Tree String} {b : Bitmap} {s s' : RenderState} {font : Font}
    (hfont : (s.library.load backend spec).1 = .ok font)
    (h : (render backend spec t).run s = (.ok b, s')) :
    b.size = t.extent font.face ∧ (s'.library.load backend spec).1 = .ok font := by
  obtain ⟨font', hfont', hsize⟩ := render_size h
  cases hfont.symm.trans hfont'
  obtain ⟨_, hload⟩ := render_moves h
  exact ⟨hsize, hload.trans hfont⟩

section grouping

variable {a b c left right : Tree String} {A B C AB BC : Bitmap} {s s₁ s₂ s₃ : RenderState}

/-- Drawings in one font may be put side by side in either grouping. -/
theorem drawings_assoc (ha : (render backend spec a).run s = (.ok A, s₁))
    (hb : (render backend spec b).run s₁ = (.ok B, s₂))
    (hc : (render backend spec c).run s₂ = (.ok C, s₃)) (hAB : A.beside B = .ok AB)
    (hBC : B.beside C = .ok BC) : ∃ D, A.beside BC = .ok D ∧ AB.beside C = .ok D := by
  obtain ⟨font, hfont, _⟩ := render_size ha
  obtain ⟨haextent, hfont₁⟩ := render_in_font hfont ha
  obtain ⟨hbextent, hfont₂⟩ := render_in_font hfont₁ hb
  obtain ⟨hcextent, _⟩ := render_in_font hfont₂ hc
  obtain ⟨full, hfull⟩ := exists_full_height font.face
  have hheight {t : Tree String} {o : Bitmap} (h : o.size = t.extent font.face) :
      o.height = 1 ∨ o.height = full := by
    have ht := hfull t
    rwa [← h] at ht
  exact beside_assoc (hasCells_of_extent haextent) (hasCells_of_extent hbextent)
    (hheight haextent) (hheight hbextent) (hheight hcextent) hAB hBC

theorem render_concat (hleft : (render backend spec left).run s = (.ok A, s₁))
    (hright : (render backend spec right).run s₁ = (.ok B, s₂)) :
    ∃ D, A.beside B = .ok D ∧ (render backend spec (.binary .concat left right)).run s =
      (.ok D, { s₂ with log := s₂.log ++ [.composite .concat D.width D.height] }) := by
  obtain ⟨D, hD⟩ := combination_of_drawn hleft .concat B s₂
  obtain ⟨hcombine, _⟩ := combination_ok hD
  refine ⟨D, hcombine, ?_⟩
  rw [render_binary, run_bind, hleft]
  dsimp only
  rw [run_bind, hright]
  exact hD

theorem render_left_error {e : RenderError}
    (h : (render backend spec left).run s = (.error e, s₁)) (op : Operator) (right : Tree String) :
    (render backend spec (.binary op left right)).run s = (.error e, s₁) := by
  rw [render_binary, run_bind, h]

theorem render_right_error {e : RenderError}
    (hleft : (render backend spec left).run s = (.ok A, s₁))
    (h : (render backend spec right).run s₁ = (.error e, s₂)) (op : Operator) :
    (render backend spec (.binary op left right)).run s = (.error e, s₂) := by
  rw [render_binary, run_bind, hleft]
  dsimp only
  rw [run_bind, h]

/-- Both groupings draw the same trees in turn. They stop at the same one, or put all of them
together. -/
theorem render_regrouped (backend : FontBackend) (spec : String) (a b c : Tree String)
    (s : RenderState) :
    let one := (render backend spec (.binary .concat a (.binary .concat b c))).run s
    let other := (render backend spec (.binary .concat (.binary .concat a b) c)).run s
    one.1 = other.1 ∧ one.2.strategy = other.2.strategy := by
  intro one other
  unfold one other
  rcases ha : (render backend spec a).run s with ⟨e | A, s₁⟩
  · have hab := render_left_error ha .concat b
    rw [render_left_error ha, render_left_error hab]
    exact ⟨rfl, rfl⟩
  · rcases hb : (render backend spec b).run s₁ with ⟨e | B, s₂⟩
    · have hbc := render_left_error hb .concat c
      have hab := render_right_error ha hb .concat
      rw [render_right_error ha hbc, render_left_error hab]
      exact ⟨rfl, rfl⟩
    · obtain ⟨AB, hAB, hab⟩ := render_concat ha hb
      -- Where the third tree is drawn, only the log tells the groupings apart.
      obtain ⟨s₂', hs₂'⟩ : ∃ s₂', s₂' = { s₂ with
        log := s₂.log ++ [LogEntry.composite .concat AB.width AB.height] } := ⟨_, rfl⟩
      have halike : Alike backend spec s₂ s₂' := by
        rw [hs₂']
        exact ⟨rfl, rfl⟩
      rw [← hs₂'] at hab
      obtain ⟨hresult, hstrategy, _⟩ := render_alike c halike
      rcases hc : (render backend spec c).run s₂ with ⟨e | C, s₃⟩ <;>
        rcases hc' : (render backend spec c).run s₂' with ⟨e' | C', s₃'⟩ <;>
        rw [hc, hc'] at hresult hstrategy <;> cases hresult
      · have hbc := render_right_error hb hc .concat
        rw [render_right_error ha hbc, render_right_error hab hc']
        exact ⟨rfl, hstrategy⟩
      · obtain ⟨BC, hBC, hbc⟩ := render_concat hb hc
        obtain ⟨D, hD, hone⟩ := render_concat ha hbc
        obtain ⟨D', hD', hother⟩ := render_concat hab hc'
        obtain ⟨E, hE, hE'⟩ := drawings_assoc ha hb hc hAB hBC
        cases hE.symm.trans hD
        cases hE'.symm.trans hD'
        rw [hone, hother]
        exact ⟨rfl, hstrategy⟩

end grouping

/-- A drawing only moves its strategy on, whatever comes of it. -/
theorem render_takes (backend : FontBackend) (spec : String) (t : Tree String) (s : RenderState) :
    ∃ n, ((render backend spec t).run s).2.strategy = s.strategy.after n := by
  have hstart : Alike backend spec s { s with strategy := s.strategy.after 0 } := alike_refl s
  obtain ⟨_, s', _, _, hrender, htries⟩ := render_tries t hstart []
  rw [hrender]
  exact htries.taken

/-- Concatenation is associative. From states with the same colors to come and the same font, both
groupings of three trees give the same bitmap, or fail in the same way, and have taken the same
number of colors then. -/
theorem concat_regrouped (a b c : Tree String) {s s' : RenderState}
    (h : Alike backend spec s s') :
    let one := (render backend spec (.binary .concat a (.binary .concat b c))).run s
    let other := (render backend spec (.binary .concat (.binary .concat a b) c)).run s'
    one.1 = other.1 ∧
      ∃ n, one.2.strategy = s.strategy.after n ∧ other.2.strategy = s'.strategy.after n := by
  intro one other
  obtain ⟨hresult, hstrategy⟩ := render_regrouped backend spec a b c s
  obtain ⟨hresult', hstrategy', _⟩ := render_alike (.binary .concat (.binary .concat a b) c) h
  obtain ⟨n, hn⟩ := render_takes backend spec (.binary .concat a (.binary .concat b c)) s
  refine ⟨hresult.trans hresult', n, hn, ?_⟩
  rw [← hstrategy', ← hstrategy, ← h.1]
  exact hn

def barGap : Tree String := .paren (.binary .concat (.literal " ") (.literal "B"))

/-- Drawings of one and of three pixels in height. -/
theorem concat_regrouped_bars :
    let later : RenderState := { barState with log := [.placeholder " "] }
    Alike .empty "bar" barState later ∧ ∃ d,
      ((render .empty "bar" (.binary .concat (.literal " ")
        (.binary .concat (.literal "A") barGap))).run barState).1 = .ok d ∧
      ((render .empty "bar" (.binary .concat (.binary .concat (.literal " ") (.literal "A"))
        barGap)).run later).1 = .ok d ∧ d.size = (7, 3) := by
  intro later
  have halike : Alike .empty "bar" barState later := ⟨rfl, rfl⟩
  obtain ⟨hsame, _⟩ := concat_regrouped (.literal " ") (.literal "A") barGap halike
  have hsize : ((render .empty "bar" (.binary .concat (.literal " ")
      (.binary .concat (.literal "A") barGap))).run barState).1.toOption.map Raster.size =
      some (7, 3) := by decide +kernel
  rcases hrun : ((render .empty "bar" (.binary .concat (.literal " ")
      (.binary .concat (.literal "A") barGap))).run barState).1 with _ | d
  · rw [hrun] at hsize
    cases hsize
  · rw [hrun] at hsame hsize
    exact ⟨halike, d, rfl, hsame.symm, Option.some.inj hsize⟩

end GlyphAlgebra
