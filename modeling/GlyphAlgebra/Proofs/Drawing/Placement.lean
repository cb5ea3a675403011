import GlyphAlgebra.Proofs.Drawing.Layout

namespace GlyphAlgebra

namespace Bitmap

/-- A column and a row of one of two bitmaps. -/
abbrev CellOf (a b : Bitmap) : Type :=
  (Fin a.width × Fin a.height) ⊕ (Fin b.width × Fin b.height)

def cell? (a b : Bitmap) : CellOf a b → Option Rgba
  | .inl (x, y) => a.get? x y
  | .inr (x, y) => b.get? x y

/-- Where the pixels of two bitmaps go that are put side by side, each of them in the middle of the
greater height. -/
def placeBeside (a b : Bitmap) : CellOf a b → Nat × Nat
  | .inl (x, y) => (x, (max a.height b.height - a.height) / 2 + y)
  | .inr (x, y) => (a.width + x, (max a.height b.height - b.height) / 2 + y)

/-- What lies at a place of the canvas of a bitmap whose corner is at the given column and row:
nothing but transparency where the bitmap does not reach. -/
def under (b : Bitmap) (left top x y : Nat) : Rgba :=
  if left ≤ x ∧ top ≤ y then (b.get? (x - left) (y - top)).getD .transparent else .transparent

/-- The bitmap shows two others side by side. Each of their pixels has a place of its own, and
everything else is transparent. -/
structure ShowsBeside (c a b : Bitmap) : Prop where
  width_eq : c.width = a.width + b.width
  height_eq : c.height = max a.height b.height
  apart : Function.Injective (placeBeside a b)
  shown : ∀ i, c.get? (placeBeside a b i).1 (placeBeside a b i).2 = cell? a b i
  clear : ∀ x y, x < c.width → y < c.height → (∀ i, placeBeside a b i ≠ (x, y)) →
    c.get? x y = some .transparent

/-- The bitmap blends two others, which lie in its middle and do not reach over its edges. -/
structure ShowsBlend (c : Bitmap) (mode : BlendMode) (a b : Bitmap) : Prop where
  width_eq : c.width = max a.width b.width
  height_eq : c.height = max a.height b.height
  within : ∀ o ∈ [a, b], (c.width - o.width) / 2 + o.width ≤ c.width ∧
    (c.height - o.height) / 2 + o.height ≤ c.height
  blended : ∀ x y, x < c.width → y < c.height → c.get? x y = some (blendPixel mode
    (a.under ((c.width - a.width) / 2) ((c.height - a.height) / 2) x y)
    (b.under ((c.width - b.width) / 2) ((c.height - b.height) / 2) x y))

end Bitmap

theorem centering_cast {outer inner : Nat} (h : inner ≤ outer) :
    Bitmap.centering outer inner = ((outer - inner) / 2 : Nat) := by
  unfold Bitmap.centering
  omega

theorem under_eq_pixel (b : Bitmap) (left top x y : Nat) :
    b.under left top x y = b.pixel (x - left) (y - top) := by
  unfold Bitmap.under Bitmap.pixel
  by_cases h : left ≤ x ∧ top ≤ y
  · have hpos : 0 ≤ (x : Int) - left ∧ 0 ≤ (y : Int) - top := by omega
    have hx : ((x : Int) - left).toNat = x - left := by omega
    have hy : ((y : Int) - top).toNat = y - top := by omega
    rw [if_pos h, if_pos hpos, hx, hy]
  · have hneg : ¬(0 ≤ (x : Int) - left ∧ 0 ≤ (y : Int) - top) := by omega
    rw [if_neg h, if_neg hneg]

/-- The columns tell the left bitmap from the right one. -/
theorem placeBeside_injective (a b : Bitmap) : Function.Injective (a.placeBeside b) := by
  rintro (⟨x, y⟩ | ⟨x, y⟩) (⟨x', y'⟩ | ⟨x', y'⟩) h <;>
    obtain ⟨hx, hy⟩ := Prod.mk.inj h
  · have hx' : x = x' := Fin.ext hx
    have hy' : y = y' := Fin.ext (by omega)
    rw [hx', hy']
  · omega
  · omega
  · have hx' : x = x' := Fin.ext (by omega)
    have hy' : y = y' := Fin.ext (by omega)
    rw [hx', hy']

section beside

variable {a b c : Bitmap}

theorem beside_shown (ha : a.HasCells) (h : a.beside b = .ok c) (i : a.CellOf b) :
    c.get? (a.placeBeside b i).1 (a.placeBeside b i).2 = a.cell? b i := by
  obtain ⟨hsize, hpixel⟩ := beside_pixel ha h
  obtain ⟨hw, hh⟩ := Prod.mk.inj hsize
  rw [centering_cast (Nat.le_max_left ..), centering_cast (Nat.le_max_right ..)] at hpixel
  rcases i with ⟨x, y⟩ | ⟨x, y⟩
  · have hx := x.isLt
    have hy := y.isLt
    simp only [Bitmap.placeBeside, Bitmap.cell?]
    rw [get?_eq_pixel (by omega) (by omega), get?_eq_pixel hx hy, hpixel, if_pos (by omega)]
    congr 2
    omega
  · have hx := x.isLt
    have hy := y.isLt
    simp only [Bitmap.placeBeside, Bitmap.cell?]
    rw [get?_eq_pixel (by omega) (by omega), get?_eq_pixel hx hy, hpixel, if_neg (by omega)]
    congr 2 <;> omega

theorem beside_clear (ha : a.HasCells) (h : a.beside b = .ok c) {x y : Nat} (hx : x < c.width)
    (hy : y < c.height) (hfree : ∀ i, a.placeBeside b i ≠ (x, y)) :
    c.get? x y = some .transparent := by
  obtain ⟨_, hpixel⟩ := beside_pixel ha h
  rw [centering_cast (Nat.le_max_left ..), centering_cast (Nat.le_max_right ..)] at hpixel
  rw [get?_eq_pixel hx hy, hpixel]
  -- A place within one of the bitmaps would be that of one of its pixels.
  by_cases hxa : x < a.width
  · rw [if_pos (by omega), pixel_outside]
    intro hin
    have hrow : y - (max a.height b.height - a.height) / 2 < a.height := by omega
    have hplace : (max a.height b.height - a.height) / 2 +
        (y - (max a.height b.height - a.height) / 2) = y := by omega
    exact hfree (.inl (⟨x, hxa⟩, ⟨_, hrow⟩)) (Prod.ext rfl hplace)
  · rw [if_neg (by omega), pixel_outside]
    intro hin
    have hcolumn : x - a.width < b.width := by omega
    have hrow : y - (max a.height b.height - b.height) / 2 < b.height := by omega
    have hplace : a.width + (x - a.width) = x := by omega
    have hplace' : (max a.height b.height - b.height) / 2 +
        (y - (max a.height b.height - b.height) / 2) = y := by omega
    exact hfree (.inr (⟨_, hcolumn⟩, ⟨_, hrow⟩)) (Prod.ext hplace hplace')

theorem beside_shows (ha : a.HasCells) (h : a.beside b = .ok c) : c.ShowsBeside a b := by
  obtain ⟨hsize, _⟩ := beside_pixel ha h
  obtain ⟨hw, hh⟩ := Prod.mk.inj hsize
  exact ⟨hw, hh, placeBeside_injective a b, beside_shown ha h,
    fun _ _ hx hy hfree => beside_clear ha h hx hy hfree⟩

end beside

theorem blend_shows {op : Operator} {mode : BlendMode} (hmode : op.blendMode? = some mode)
    {a : Bitmap} (ha : a.HasCells) (b : Bitmap) :
    ∃ c, Bitmap.combine op a b = .ok c ∧ c.ShowsBlend mode a b := by
  obtain ⟨c, hc, hsize, hfilled⟩ := combine_ok op ha b
  rw [canvas_of_blends hmode] at hsize
  rw [corners_of_blends hmode] at hfilled
  obtain ⟨hw, hh⟩ := Prod.mk.inj hsize
  simp only [Raster.size] at hw hh
  refine ⟨c, hc, hw, hh, ?_, ?_⟩
  · intro o ho
    simp only [List.mem_cons, List.not_mem_nil, or_false] at ho
    rcases ho with rfl | rfl <;> omega
  · intro x y hx hy
    have hcenter {o : Bitmap} (how : o.width ≤ c.width) (hoh : o.height ≤ c.height) :
        o.under ((c.width - o.width) / 2) ((c.height - o.height) / 2) x y =
          o.pixel (x - Bitmap.centering c.width o.width)
            (y - Bitmap.centering c.height o.height) := by
      rw [under_eq_pixel, centering_cast how, centering_cast hoh]
    have hpixel := hfilled.inside (x := x) (y := y) (by omega)
    simp only [Operator.merge, hmode, Raster.size, ← hw, ← hh] at hpixel
    rw [get?_eq_pixel hx hy, hpixel, hcenter (by omega) (by omega), hcenter (by omega) (by omega)]

/-- The layout of an operator keeps every pixel of its operands, and no operator fails if the left
operand has a pixel. Concatenation shows the operands side by side. All others put both of them into
the middle of the canvas, and blend what lies at each place. -/
theorem combine_keeps_operands {a : Bitmap} (ha : a.HasCells) (b : Bitmap) :
    (∃ c, a.beside b = .ok c ∧ Bitmap.combine .concat a b = .ok c ∧ c.ShowsBeside a b) ∧
      ∀ op, op ≠ .concat → ∃ mode c, op.blendMode? = some mode ∧
        Bitmap.combine op a b = .ok c ∧ c.ShowsBlend mode a b := by
  constructor
  · obtain ⟨c, hc⟩ := beside_ok ha b
    exact ⟨c, hc, hc, beside_shows ha hc⟩
  · intro op hop
    cases hmode : op.blendMode? with
    | none => exact absurd (concat_of_not_blends hmode) hop
    | some mode =>
      obtain ⟨c, hc, hshows⟩ := blend_shows hmode ha b
      exact ⟨mode, c, rfl, hc, hshows⟩

def redTile : Bitmap := Raster.tabulate 3 2 fun _ _ => ⟨255, 0, 0, 255⟩

def blueTile : Bitmap := Raster.tabulate 2 5 fun _ _ => ⟨0, 0, 255, 255⟩

/-- Three rows are to spare beside the lower one of two tiles, and one of them goes above it. -/
theorem combine_keeps_operands_tiles :
    redTile.HasCells ∧
    (∃ c, Bitmap.combine .concat redTile blueTile = .ok c ∧ (c.width, c.height) = (5, 5) ∧
      c.get? 2 2 = some ⟨255, 0, 0, 255⟩ ∧ c.get? 3 2 = some ⟨0, 0, 255, 255⟩ ∧
      c.get? 2 0 = some .transparent) ∧
    ∃ c, Bitmap.combine .sub redTile blueTile = .ok c ∧ (c.width, c.height) = (3, 5) ∧
      c.get? 2 2 = some (blendPixel .destinationOut ⟨255, 0, 0, 255⟩ .transparent) := by
  have hcells : redTile.HasCells := ⟨by decide, by decide⟩
  obtain ⟨⟨c, _, hc, hbeside⟩, hblends⟩ := combine_keeps_operands hcells blueTile
  obtain ⟨mode, d, hmode, hd, hblend⟩ := hblends .sub (by decide)
  cases hmode
  have hcw : c.width = 5 := hbeside.width_eq
  have hch : c.height = 5 := hbeside.height_eq
  have hdw : d.width = 3 := hblend.width_eq
  have hdh : d.height = 5 := hblend.height_eq
  have hred := hbeside.shown (.inl (⟨2, by decide⟩, ⟨1, by decide⟩))
  have hblue := hbeside.shown (.inr (⟨0, by decide⟩, ⟨2, by decide⟩))
  have hfree : ∀ i, redTile.placeBeside blueTile i ≠ (2, 0) := by
    rintro (⟨x, y⟩ | ⟨x, y⟩) h <;> obtain ⟨hx, hy⟩ := Prod.mk.inj h
    · have hrow : 1 + (y : Nat) = 0 := hy
      omega
    · have hcolumn : 3 + (x : Nat) = 2 := hx
      omega
  have hclear := hbeside.clear 2 0 (by omega) (by omega) hfree
  have hpixel := hblend.blended 2 2 (by omega) (by omega)
  rw [hdw, hdh] at hpixel
  exact ⟨hcells, ⟨c, hc, by rw [hcw, hch], hred, hblue, hclear⟩, d, hd, by rw [hdw, hdh], hpixel⟩

end GlyphAlgebra
