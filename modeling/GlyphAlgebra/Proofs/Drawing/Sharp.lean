import GlyphAlgebra.Bitmap.Mask
import GlyphAlgebra.Proofs.Drawing.Layout

namespace GlyphAlgebra

def unitOfByte (c : UInt8) : Float32 := c.toFloat32 / 255

/-- Weights of 0 and 1 leave the share of a byte exact, and it is rounded to this byte again. -/
theorem unit_exact (c : UInt8) :
    unitOfByte c * 1 = unitOfByte c ∧ unitOfByte c * 0 = 0 ∧ unitOfByte c + 0 = unitOfByte c ∧
      0 + unitOfByte c = unitOfByte c ∧ unitOfByte c / 1 = unitOfByte c ∧
      byteOfUnit (unitOfByte c) = c := by
  -- No laws of rounding are at hand, but there are only so many bytes.
  have hall : ∀ i : Fin 256,
      let x := unitOfByte (UInt8.ofFin i)
      x * 1 = x ∧ x * 0 = 0 ∧ x + 0 = x ∧ 0 + x = x ∧ x / 1 = x ∧
        byteOfUnit x = UInt8.ofFin i := by
    decide +kernel
  exact hall c.toFin

@[simp] theorem unit_mul_one (c : UInt8) : unitOfByte c * 1 = unitOfByte c := (unit_exact c).1

@[simp] theorem unit_mul_zero (c : UInt8) : unitOfByte c * 0 = 0 := (unit_exact c).2.1

@[simp] theorem unit_add_zero (c : UInt8) : unitOfByte c + 0 = unitOfByte c := (unit_exact c).2.2.1

@[simp] theorem zero_add_unit (c : UInt8) : 0 + unitOfByte c = unitOfByte c :=
  (unit_exact c).2.2.2.1

/-- The sums, differences and products of 0 and 1 that a blend comes to. -/
@[simp] theorem weights_exact :
    (0 : Float32) * 0 = 0 ∧ (0 : Float32) * 1 = 0 ∧ (1 : Float32) * 0 = 0 ∧ (1 : Float32) * 1 = 1 ∧
      (0 : Float32) + 0 = 0 ∧ (0 : Float32) + 1 = 1 ∧ (1 : Float32) + 0 = 1 ∧
      (1 : Float32) - 0 = 1 ∧ (1 : Float32) - 1 = 0 := by
  decide +kernel

theorem unit_bounds : unitOfByte 0 = 0 ∧ unitOfByte 255 = 1 := by decide +kernel

@[simp] theorem byteOfUnit_bounds : byteOfUnit 0 = 0 ∧ byteOfUnit 1 = 255 := by decide +kernel

@[simp] theorem byteOfUnit_straight (c : UInt8) :
    byteOfUnit (straightChannel (unitOfByte c) 1) = c := by
  have hpos : (0 : Float32) < 1 := by decide +kernel
  obtain ⟨_, _, _, _, hdiv, hround⟩ := unit_exact c
  rw [straightChannel, if_pos hpos, hdiv, hround]

theorem premultiplied_opaque {c : Rgba} (h : c.alpha = 255) :
    c.premultiplied = ⟨unitOfByte c.red, unitOfByte c.green, unitOfByte c.blue, 1⟩ := by
  have halpha : c.alpha.toFloat32 / 255 = 1 := by rw [h]; exact unit_bounds.2
  have hone (x : UInt8) : x.toFloat32 / 255 * 1 = unitOfByte x := unit_mul_one x
  simp only [Rgba.premultiplied, halpha, hone]

theorem premultiplied_clear {c : Rgba} (h : c.alpha = 0) : c.premultiplied = ⟨0, 0, 0, 0⟩ := by
  have halpha : c.alpha.toFloat32 / 255 = 0 := by rw [h]; exact unit_bounds.1
  have hzero (x : UInt8) : x.toFloat32 / 255 * 0 = 0 := unit_mul_zero x
  simp only [Rgba.premultiplied, halpha, hzero]

/-- What an operator leaves of two layers: the right one before the left one, or the left one
without the right one, or the right one within the left one, or the only one. -/
def Operator.selects {β : Type} : Operator → Option β → Option β → Option β
  | concat, a, b | add, a, b | or, a, b => b <|> a
  | sub, a, b => if b.isSome then none else a
  | and, a, b => if a.isSome then b else none
  | xor, some a, none => some a
  | xor, none, b => b
  | xor, some _, some _ => none

/-- The pixel shows the color of a number, or nothing where no number is given. -/
def Rgba.Paints (color : Nat → Option Rgba) (p : Rgba) : Option Nat → Prop
  | some k => color k = some p ∧ p.alpha = 255
  | none => p.alpha = 0

variable {color : Nat → Option Rgba} {p q : Rgba}

theorem blend_clear_clear (mode : BlendMode) (hp : p.alpha = 0) (hq : q.alpha = 0) :
    (blendPixel mode p q).alpha = 0 := by
  simp only [blendPixel, premultiplied_clear hp, premultiplied_clear hq]
  cases mode <;> simp [BlendMode.factors]

theorem blend_opaque_clear (mode : BlendMode) (hp : p.alpha = 255) (hq : q.alpha = 0) :
    if mode = .sourceIn then (blendPixel mode p q).alpha = 0 else blendPixel mode p q = p := by
  simp only [blendPixel, premultiplied_opaque hp, premultiplied_clear hq]
  obtain ⟨r, g, b, a⟩ := p
  cases mode <;> simp_all [BlendMode.factors]

theorem blend_clear_opaque (mode : BlendMode) (hp : p.alpha = 0) (hq : q.alpha = 255) :
    if mode = .sourceOver ∨ mode = .xor then blendPixel mode p q = q
    else (blendPixel mode p q).alpha = 0 := by
  simp only [blendPixel, premultiplied_clear hp, premultiplied_opaque hq]
  obtain ⟨r, g, b, a⟩ := q
  cases mode <;> simp_all [BlendMode.factors]

theorem blend_opaque_opaque (mode : BlendMode) (hp : p.alpha = 255) (hq : q.alpha = 255) :
    if mode = .sourceOver ∨ mode = .sourceIn then blendPixel mode p q = q
    else (blendPixel mode p q).alpha = 0 := by
  simp only [blendPixel, premultiplied_opaque hp, premultiplied_opaque hq]
  obtain ⟨r, g, b, a⟩ := q
  cases mode <;> simp_all [BlendMode.factors]

/-- A blend of two such pixels shows what the operator selects. -/
theorem blend_paints {op : Operator} {mode : BlendMode} {a b : Option Nat}
    (hm : op.blendMode? = some mode) (hp : p.Paints color a) (hq : q.Paints color b) :
    (blendPixel mode p q).Paints color (op.selects a b) := by
  cases a with
  | none =>
    cases b with
    | none =>
      have hblend := blend_clear_clear mode hp hq
      cases op <;> cases hm <;> exact hblend
    | some j =>
      have hblend := blend_clear_opaque mode hp hq.2
      cases op <;> cases hm <;> simp_all [Operator.selects, Rgba.Paints]
  | some i =>
    cases b with
    | none =>
      have hblend := blend_opaque_clear mode hp.2 hq
      cases op <;> cases hm <;> simp_all [Operator.selects, Rgba.Paints]
    | some j =>
      have hblend := blend_opaque_opaque mode hp.2 hq.2
      cases op <;> cases hm <;> simp_all [Operator.selects, Rgba.Paints]

/-- The numbers that a blend meets for the alpha of a pixel: the alphas, the factors, the weighted
alphas and their sum. -/
def BlendMode.alphas (mode : BlendMode) (destination source : Rgba) : List Float32 :=
  let s := source.premultiplied.alpha
  let d := destination.premultiplied.alpha
  let (fs, fd) := mode.factors s d
  [s, d, fs, fd, s * fs, d * fd, s * fs + d * fd]

theorem Rgba.Paints.sharp {a : Option Nat} (h : p.Paints color a) :
    p.alpha = 0 ∨ p.alpha = 255 := by
  cases a with
  | none => exact .inl h
  | some k => exact .inr h.2

theorem alphas_exact (mode : BlendMode) (hp : p.alpha = 0 ∨ p.alpha = 255)
    (hq : q.alpha = 0 ∨ q.alpha = 255) : ∀ v ∈ mode.alphas p q, v = 0 ∨ v = 1 := by
  rcases hp with hp | hp <;> rcases hq with hq | hq <;>
    simp only [BlendMode.alphas, premultiplied_clear, premultiplied_opaque, hp, hq] <;>
    cases mode <;> simp [BlendMode.factors]

/-- Every pixel shows the color of the number that is given for its place. -/
def Bitmap.Shows (b : Bitmap) (color : Nat → Option Rgba) (numbers : Int → Int → Option Nat) :
    Prop :=
  ∀ x y, (b.pixel x y).Paints color (numbers x y)

def Within (size : Nat × Nat) (x y : Int) : Prop :=
  (0 ≤ x ∧ x < size.1) ∧ 0 ≤ y ∧ y < size.2

theorem Bitmap.Shows.outside {b : Bitmap} {f : Int → Int → Option Nat} (h : b.Shows color f)
    {x y : Int} (hout : ¬Within b.size x y) : f x y = none := by
  have hpaints := h x y
  rw [pixel_outside hout] at hpaints
  cases hf : f x y with
  | none => rfl
  | some k =>
    rw [hf] at hpaints
    exact absurd hpaints.2 (by decide)

/-- An operand that begins at its corner lies on the canvas. -/
theorem within_left {op : Operator} {a b : Nat × Nat} {x y : Int}
    (h : Within a (x - (op.corners a b).1.1) (y - (op.corners a b).1.2)) :
    Within (op.canvas a b) x y := by
  cases op <;> simp only [Within, Operator.corners, Operator.canvas, Bitmap.centering] at h ⊢ <;>
    omega

theorem within_right {op : Operator} {a b : Nat × Nat} {x y : Int}
    (h : Within b (x - (op.corners a b).2.1) (y - (op.corners a b).2.2)) :
    Within (op.canvas a b) x y := by
  cases op <;> simp only [Within, Operator.corners, Operator.canvas, Bitmap.centering] at h ⊢ <;>
    omega

theorem selects_none {β : Type} (op : Operator) : op.selects (none : Option β) none = none := by
  cases op <;> rfl

/-- A combination of two drawings shows at each place what the operator selects of the operands
that lie there. -/
theorem combine_shows {op : Operator} {a b c : Bitmap} {f g : Int → Int → Option Nat}
    (hcells : a.HasCells) (ha : a.Shows color f) (hb : b.Shows color g)
    (hc : Bitmap.combine op a b = .ok c) :
    c.Shows color fun x y =>
      let left := (op.corners a.size b.size).1
      let right := (op.corners a.size b.size).2
      op.selects (f (x - left.1) (y - left.2)) (g (x - right.1) (y - right.2)) := by
  obtain ⟨c', hc', hsize, hfilled⟩ := combine_ok op hcells b
  cases hc.symm.trans hc'
  intro x y
  dsimp only
  by_cases hin : Within c.size x y
  · rw [hfilled.inside hin]
    dsimp only
    have hp := ha (x - (op.corners a.size b.size).1.1) (y - (op.corners a.size b.size).1.2)
    have hq := hb (x - (op.corners a.size b.size).2.1) (y - (op.corners a.size b.size).2.2)
    cases hm : op.blendMode? with
    | some mode =>
      simp only [Operator.merge, hm]
      exact blend_paints hm hp hq
    | none =>
      cases concat_of_not_blends hm
      by_cases hx : x < a.width
      · have hright : g (x - (Operator.concat.corners a.size b.size).2.1)
            (y - (Operator.concat.corners a.size b.size).2.2) = none :=
          hb.outside fun h => absurd h.1.1 (by simp only [Operator.corners, Raster.size]; omega)
        simpa [Operator.merge, hm, hx, hright, Operator.selects] using hp
      · have hleft : f (x - (Operator.concat.corners a.size b.size).1.1)
            (y - (Operator.concat.corners a.size b.size).1.2) = none :=
          ha.outside fun h => absurd h.1.2 (by simp only [Operator.corners, Raster.size]; omega)
        simpa [Operator.merge, hm, hx, hleft, Operator.selects] using hq
  · -- Off the canvas both operands are beyond their own edges.
    rw [pixel_outside hin]
    rw [hsize] at hin
    rw [ha.outside (mt within_left hin), hb.outside (mt within_right hin), selects_none]
    rfl

/-- A mask goes on uncovered without end. -/
def Mask.coverage (mask : Mask) (x y : Int) : UInt8 :=
  if 0 ≤ x ∧ 0 ≤ y then (mask.get? x.toNat y.toNat).getD 0 else 0

theorem coverage_within {mask : Mask} {x y : Int} (h : mask.coverage x y ≠ 0) :
    Within mask.size x y := by
  unfold Mask.coverage at h
  by_cases hpos : 0 ≤ x ∧ 0 ≤ y
  · rw [if_pos hpos] at h
    by_cases hin : x.toNat < mask.width ∧ y.toNat < mask.height
    · exact ⟨⟨hpos.1, (Int.toNat_lt hpos.1).mp hin.1⟩, hpos.2, (Int.toNat_lt hpos.2).mp hin.2⟩
    · rw [Raster.get?_outside hin] at h
      exact absurd rfl h
  · rw [if_neg hpos] at h
    exact absurd rfl h

def Mask.Sharp (mask : Mask) : Prop := ∀ c ∈ mask.cells, c = 0 ∨ c = 255

theorem Mask.Sharp.get? {mask : Mask} (h : mask.Sharp) {x y : Nat} {c : UInt8}
    (hc : mask.get? x y = some c) : c = 0 ∨ c = 255 := by
  unfold Raster.get? at hc
  split at hc
  next => exact h c (Array.mem_of_getElem? hc)
  next => cases hc

theorem fill_shows {mask : Mask} {rgba : Rgba} {k : Nat} (hm : mask.Sharp)
    (hk : color k = some rgba) (halpha : rgba.alpha = 255) :
    (mask.fill rgba).Shows color fun x y => if mask.coverage x y = 255 then some k else none := by
  intro x y
  by_cases hpos : 0 ≤ x ∧ 0 ≤ y
  · simp only [Bitmap.pixel, Mask.coverage, if_pos hpos, Mask.fill, Raster.get?_map]
    cases hc : mask.get? x.toNat y.toNat with
    | none => rfl
    | some c =>
      rcases hm.get? hc with rfl | rfl
      · show coveredAlpha 0 rgba.alpha = 0
        rw [halpha]
        rfl
      · have hfull : coveredAlpha 255 rgba.alpha = rgba.alpha := by rw [halpha]; rfl
        simp only [Option.map_some, Option.getD_some, if_true, hfull]
        exact ⟨hk, halpha⟩
  · simp only [Bitmap.pixel, Mask.coverage, if_neg hpos]
    rfl

end GlyphAlgebra
