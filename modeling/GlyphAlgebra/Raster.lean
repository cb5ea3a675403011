namespace GlyphAlgebra

/-- A rectangle of cells, stored row by row. -/
structure Raster (α : Type) where
  width : Nat
  height : Nat
  cells : Array α
  size_cells : cells.size = width * height
  deriving DecidableEq

namespace Raster

variable {α β : Type}

/-- The raster whose cell in column `x` and row `y` is `f x y`. -/
def tabulate (width height : Nat) (f : Nat → Nat → α) : Raster α where
  width := width
  height := height
  cells := Array.ofFn fun i : Fin (width * height) => f (i % width) (i / width)
  size_cells := Array.size_ofFn

def get? (r : Raster α) (x y : Nat) : Option α :=
  if x < r.width ∧ y < r.height then r.cells[y * r.width + x]? else none

def map (f : α → β) (r : Raster α) : Raster β where
  width := r.width
  height := r.height
  cells := r.cells.map f
  size_cells := by rw [Array.size_map, r.size_cells]

def rows (r : Raster α) : List (List α) :=
  (List.range r.height).map fun y => (List.range r.width).filterMap fun x => r.get? x y

/-- A raster of the given rows; the first row fixes the width, and gaps take the filler. -/
def ofRows (filler : α) (rows : List (List α)) : Raster α :=
  tabulate (rows.head?.map List.length |>.getD 0) rows.length fun x y =>
    (rows[y]?.bind (·[x]?)).getD filler

theorem cell_index_lt {w h x y : Nat} (hx : x < w) (hy : y < h) : y * w + x < w * h := by
  have hw : (y + 1) * w ≤ h * w := Nat.mul_le_mul_right w hy
  rw [Nat.succ_mul, Nat.mul_comm h w] at hw
  omega

theorem get?_inside {r : Raster α} {x y : Nat} (h : x < r.width ∧ y < r.height) :
    r.get? x y = r.cells[y * r.width + x]? := if_pos h

theorem get?_outside {r : Raster α} {x y : Nat} (h : ¬(x < r.width ∧ y < r.height)) :
    r.get? x y = none := if_neg h

theorem get?_tabulate (w h : Nat) (f : Nat → Nat → α) (x y : Nat) :
    (tabulate w h f).get? x y = if x < w ∧ y < h then some (f x y) else none := by
  by_cases hb : x < w ∧ y < h
  · have hi := cell_index_lt hb.1 hb.2
    have hm : (y * w + x) % w = x := by
      rw [Nat.add_comm, Nat.add_mul_mod_self_right, Nat.mod_eq_of_lt hb.1]
    have hd : (y * w + x) / w = y := by
      rw [Nat.add_comm, Nat.add_mul_div_right _ _ (by omega), Nat.div_eq_of_lt hb.1, Nat.zero_add]
    rw [get?_inside hb, if_pos hb]
    simp [tabulate, hi, hm, hd]
  · rw [get?_outside hb, if_neg hb]

theorem get?_map (f : α → β) (r : Raster α) (x y : Nat) :
    (r.map f).get? x y = (r.get? x y).map f := by
  by_cases hb : x < r.width ∧ y < r.height
  · rw [get?_inside hb, get?_inside (r := r.map f) hb]
    simp [map]
  · rw [get?_outside hb, get?_outside (r := r.map f) hb]
    rfl

theorem isSome_get? (r : Raster α) (x y : Nat) :
    (r.get? x y).isSome ↔ x < r.width ∧ y < r.height := by
  by_cases hb : x < r.width ∧ y < r.height
  · have hi := cell_index_lt hb.1 hb.2
    simp [get?_inside hb, r.size_cells, hi, hb]
  · simp [get?_outside hb, hb]

theorem ext_get? {r s : Raster α} (hw : r.width = s.width) (hh : r.height = s.height)
    (hc : ∀ x y, r.get? x y = s.get? x y) : r = s := by
  obtain ⟨w, h, cells, hs⟩ := r
  obtain ⟨w', h', cells', hs'⟩ := s
  simp only at hw hh
  subst hw hh
  have he : cells = cells' := by
    apply Array.ext (by rw [hs, hs'])
    intro i hi hi'
    have hlt : i < w * h := hs ▸ hi
    have hpos : 0 < w := Nat.pos_of_ne_zero fun h0 => by simp [h0] at hlt
    have hx : i % w < w := Nat.mod_lt i hpos
    have hy : i / w < h := Nat.div_lt_of_lt_mul hlt
    have hg := hc (i % w) (i / w)
    have hidx : i / w * w + i % w = i := by rw [Nat.mul_comm]; exact Nat.div_add_mod i w
    simpa [get?, hx, hy, hidx, hi, hi'] using hg
  subst he
  rfl

end Raster

end GlyphAlgebra
