import GlyphAlgebra.Bitmap.Blend

namespace GlyphAlgebra

def Raster.size {α : Type} (r : Raster α) : Nat × Nat := (r.width, r.height)

def Raster.HasCells {α : Type} (r : Raster α) : Prop := 0 < r.width ∧ 0 < r.height

/-- The size of the canvas for operands of two sizes. -/
def Operator.canvas : Operator → Nat × Nat → Nat × Nat → Nat × Nat
  | concat, a, b => (a.1 + b.1, max a.2 b.2)
  | _, a, b => (max a.1 b.1, max a.2 b.2)

/-- The corners of the operands on the canvas. -/
def Operator.corners : Operator → Nat × Nat → Nat × Nat → (Int × Int) × (Int × Int)
  | concat, a, b =>
    ((0, Bitmap.centering (max a.2 b.2 : Nat) a.2), (a.1, Bitmap.centering (max a.2 b.2 : Nat) b.2))
  | _, a, b =>
    ((Bitmap.centering (max a.1 b.1 : Nat) a.1, Bitmap.centering (max a.2 b.2 : Nat) a.2),
     (Bitmap.centering (max a.1 b.1 : Nat) b.1, Bitmap.centering (max a.2 b.2 : Nat) b.2))

/-- The pixel that an operator makes of a pixel of each operand, the left one of which is shown
where the operands only lie side by side. -/
def Operator.merge (op : Operator) (onLeft : Bool) (p q : Rgba) : Rgba :=
  match op.blendMode? with
  | none => if onLeft then p else q
  | some mode => blendPixel mode p q

theorem canvas_of_blends {op : Operator} {mode : BlendMode} (h : op.blendMode? = some mode)
    (a b : Nat × Nat) : op.canvas a b = (max a.1 b.1, max a.2 b.2) := by
  cases op with
  | concat => cases h
  | _ => rfl

theorem corners_of_blends {op : Operator} {mode : BlendMode} (h : op.blendMode? = some mode)
    (a b : Nat × Nat) : op.corners a b =
      ((Bitmap.centering (max a.1 b.1 : Nat) a.1, Bitmap.centering (max a.2 b.2 : Nat) a.2),
       (Bitmap.centering (max a.1 b.1 : Nat) b.1, Bitmap.centering (max a.2 b.2 : Nat) b.2)) := by
  cases op with
  | concat => cases h
  | _ => rfl

theorem concat_of_not_blends {op : Operator} (h : op.blendMode? = none) : op = .concat := by
  cases op with
  | concat => rfl
  | _ => cases h

theorem pixel_tabulate (width height : Nat) (f : Nat → Nat → Rgba) (x y : Int) :
    Bitmap.pixel (Raster.tabulate width height f) x y =
      if (0 ≤ x ∧ x < width) ∧ 0 ≤ y ∧ y < height then f x.toNat y.toNat else .transparent := by
  unfold Bitmap.pixel
  by_cases hpos : 0 ≤ x ∧ 0 ≤ y
  · rw [if_pos hpos, Raster.get?_tabulate]
    by_cases hin : x.toNat < width ∧ y.toNat < height
    · rw [if_pos hin, if_pos (by omega)]
      rfl
    · rw [if_neg hin, if_neg (by omega)]
      rfl
  · rw [if_neg hpos, if_neg (by omega)]

theorem pixel_outside {b : Bitmap} {x y : Int}
    (h : ¬((0 ≤ x ∧ x < b.width) ∧ 0 ≤ y ∧ y < b.height)) : b.pixel x y = .transparent := by
  unfold Bitmap.pixel
  by_cases hpos : 0 ≤ x ∧ 0 ≤ y
  · rw [if_pos hpos, Raster.get?_outside (by omega)]
    rfl
  · rw [if_neg hpos]

/-- Within its edges a bitmap has a pixel in every column and row. -/
theorem get?_eq_pixel {b : Bitmap} {x y : Nat} (hx : x < b.width) (hy : y < b.height) :
    b.get? x y = some (b.pixel x y) := by
  obtain ⟨p, hp⟩ := Option.isSome_iff_exists.mp ((Raster.isSome_get? b x y).mpr ⟨hx, hy⟩)
  have hpos : (0 : Int) ≤ x ∧ (0 : Int) ≤ y := by omega
  rw [Bitmap.pixel, if_pos hpos, Int.toNat_natCast, Int.toNat_natCast, hp]
  rfl

theorem ext_pixel {a b : Bitmap} (hsize : a.size = b.size)
    (h : ∀ x y : Int, a.pixel x y = b.pixel x y) : a = b := by
  obtain ⟨hw, hh⟩ := Prod.mk.inj hsize
  apply Raster.ext_get? hw hh
  intro x y
  by_cases hin : x < a.width ∧ y < a.height
  · have ha := get?_eq_pixel hin.1 hin.2
    have hb := get?_eq_pixel (hw ▸ hin.1) (hh ▸ hin.2)
    rw [ha, hb, h]
  · have hin' : ¬(x < b.width ∧ y < b.height) := by omega
    rw [Raster.get?_outside hin, Raster.get?_outside hin']

/-- The bitmap has the pixels that the function gives, and is transparent beyond its size. -/
def Bitmap.Filled (b : Bitmap) (f : Int → Int → Rgba) : Prop :=
  ∀ x y, b.pixel x y =
    if (0 ≤ x ∧ x < b.width) ∧ 0 ≤ y ∧ y < b.height then f x y else .transparent

theorem tabulate_filled (width height : Nat) (f : Int → Int → Rgba) :
    Bitmap.Filled (Raster.tabulate width height fun x y => f x y) f := by
  intro x y
  rw [pixel_tabulate]
  by_cases hin : (0 ≤ x ∧ x < (width : Int)) ∧ 0 ≤ y ∧ y < (height : Int)
  · rw [if_pos hin, Int.toNat_of_nonneg hin.1.1, Int.toNat_of_nonneg hin.2.1]
    exact (if_pos hin).symm
  · rw [if_neg hin]
    exact (if_neg hin).symm

theorem Bitmap.Filled.inside {b : Bitmap} {f : Int → Int → Rgba} (h : b.Filled f) {x y : Int}
    (hin : (0 ≤ x ∧ x < b.width) ∧ 0 ≤ y ∧ y < b.height) : b.pixel x y = f x y :=
  (h x y).trans (if_pos hin)

theorem draw_ok {width height : Nat} (hw : 0 < width) (hh : 0 < height) (f : Int → Int → Rgba) :
    ∃ c, Bitmap.draw width height f = .ok c ∧ c.size = (width, height) ∧ c.Filled f := by
  have hpos : ¬((width : Int) ≤ 0 ∨ (height : Int) ≤ 0) := by omega
  exact ⟨_, if_neg hpos, rfl, tabulate_filled width height f⟩

theorem blend_ok {d s : Bitmap} (h : d.size = s.size) (mode : BlendMode) :
    ∃ c, d.blend s mode = .ok c ∧ c.size = d.size ∧
      c.Filled fun x y => blendPixel mode (d.pixel x y) (s.pixel x y) :=
  ⟨_, if_pos (Prod.mk.inj h), rfl,
    tabulate_filled d.width d.height fun x y => blendPixel mode (d.pixel x y) (s.pixel x y)⟩

/-- Operators always succeed on bitmaps, if only the left one has pixels. The result fills the
canvas, and each of its pixels is made of the pixels of the operands at this place. -/
theorem combine_ok (op : Operator) {a : Bitmap} (ha : a.HasCells) (b : Bitmap) :
    ∃ c, Bitmap.combine op a b = .ok c ∧ c.size = op.canvas a.size b.size ∧
      c.Filled fun x y =>
        let left := (op.corners a.size b.size).1
        let right := (op.corners a.size b.size).2
        op.merge (decide (x < a.width)) (a.pixel (x - left.1) (y - left.2))
          (b.pixel (x - right.1) (y - right.2)) := by
  have hh : 0 < max a.height b.height := Nat.lt_of_lt_of_le ha.2 (Nat.le_max_left ..)
  cases hm : op.blendMode? with
  | none =>
    cases concat_of_not_blends hm
    have hw : 0 < a.width + b.width := Nat.add_pos_left ha.1 _
    obtain ⟨c, hc, hsize, hfilled⟩ := draw_ok hw hh fun x y =>
      if x < a.width then a.pixel x (y - Bitmap.centering (max a.height b.height : Nat) a.height)
      else b.pixel (x - a.width) (y - Bitmap.centering (max a.height b.height : Nat) b.height)
    refine ⟨c, hc, hsize, ?_⟩
    simpa [Operator.merge, Operator.blendMode?, Operator.corners, Raster.size] using hfilled
  | some mode =>
    have hw : 0 < max a.width b.width := Nat.lt_of_lt_of_le ha.1 (Nat.le_max_left ..)
    have hcenter (o : Bitmap) := draw_ok hw hh fun x y =>
      o.pixel (x - Bitmap.centering (max a.width b.width : Nat) o.width)
        (y - Bitmap.centering (max a.height b.height : Nat) o.height)
    obtain ⟨d, hd, hdsize, hdfilled⟩ := hcenter a
    obtain ⟨s, hs, hssize, hsfilled⟩ := hcenter b
    obtain ⟨c, hc, hcsize, hcfilled⟩ := blend_ok (hdsize.trans hssize.symm) mode
    refine ⟨c, ?_, ?_, fun x y => ?_⟩
    · simp only [Bitmap.combine, hm, Bitmap.recenter, hd, hs]
      exact hc
    · rw [canvas_of_blends hm, hcsize]
      exact hdsize
    · rw [corners_of_blends hm, hcfilled]
      by_cases hin : (0 ≤ x ∧ x < (c.width : Int)) ∧ 0 ≤ y ∧ y < (c.height : Int)
      · obtain ⟨hdw, hdh⟩ := Prod.mk.inj hcsize
        obtain ⟨hsw, hsh⟩ := Prod.mk.inj (hcsize.trans (hdsize.trans hssize.symm))
        have hdpixel : d.pixel x y = _ := hdfilled.inside (by omega)
        have hspixel : s.pixel x y = _ := hsfilled.inside (by omega)
        simp only [if_pos hin, Operator.merge, hm, hdpixel, hspixel, Raster.size]
      · rw [if_neg hin, if_neg hin]

theorem canvas_height (op : Operator) (a b : Nat × Nat) : (op.canvas a b).2 = max a.2 b.2 := by
  cases op <;> rfl

theorem canvas_pos (op : Operator) {a : Nat × Nat} (ha : 0 < a.1 ∧ 0 < a.2) (b : Nat × Nat) :
    0 < (op.canvas a b).1 ∧ 0 < (op.canvas a b).2 := by
  cases op <;> simp only [Operator.canvas] <;> omega

theorem beside_ok {a : Bitmap} (ha : a.HasCells) (b : Bitmap) : ∃ c, a.beside b = .ok c := by
  obtain ⟨c, hc, _⟩ := combine_ok .concat ha b
  exact ⟨c, hc⟩

/-- Each place shows one of two bitmaps that are side by side, also beyond the edges, where both are
transparent. -/
theorem beside_pixel {a b c : Bitmap} (ha : a.HasCells) (h : a.beside b = .ok c) :
    c.size = (a.width + b.width, max a.height b.height) ∧ ∀ x y : Int, c.pixel x y =
      if x < a.width then a.pixel x (y - Bitmap.centering (max a.height b.height : Nat) a.height)
      else b.pixel (x - a.width) (y - Bitmap.centering (max a.height b.height : Nat) b.height) := by
  obtain ⟨c', hc, hsize, hfilled⟩ := combine_ok .concat ha b
  have hcombine : Bitmap.combine .concat a b = a.beside b := rfl
  rw [hcombine, h] at hc
  cases hc
  obtain ⟨hw, hh⟩ := Prod.mk.inj hsize
  refine ⟨hsize, fun x y => ?_⟩
  have hpixel := hfilled x y
  simp only [Operator.merge, Operator.blendMode?, Operator.corners, Raster.size, Int.sub_zero,
    decide_eq_true_eq] at hpixel
  rw [hpixel]
  by_cases hin : (0 ≤ x ∧ x < (c.width : Int)) ∧ 0 ≤ y ∧ y < (c.height : Int)
  · rw [if_pos hin]
  · rw [if_neg hin]
    simp only [Raster.size] at hw hh
    by_cases hx : x < a.width
    · rw [if_pos hx, pixel_outside]
      unfold Bitmap.centering
      omega
    · rw [if_neg hx, pixel_outside]
      unfold Bitmap.centering
      omega

end GlyphAlgebra
