import GlyphAlgebra.Color.Catalog

namespace GlyphAlgebra

/-- What gives colors one at a time, with all that it keeps in between. -/
inductive Iterator
  /-- Makes each color from its number and counts up. -/
  | counting (color : Nat → Color) (k : Nat)
  | repeating (color : Color)
  /-- Goes through a list for the first time and saves what it gives. -/
  | filling (saved left : List Color)
  /-- Goes through what was saved, round after round. -/
  | circling (saved left : List Color)
  | draining (left : List Color)

namespace Iterator

def next : Iterator → Except StrategyError (Color × Iterator)
  | counting color k => .ok (color k, counting color (k + 1))
  | repeating color => .ok (color, repeating color)
  | filling saved (c :: left) => .ok (c, filling (saved ++ [c]) left)
  | filling (c :: saved) [] => .ok (c, circling (c :: saved) saved)
  | circling saved (c :: left) => .ok (c, circling saved left)
  | circling (c :: saved) [] => .ok (c, circling (c :: saved) saved)
  | draining (c :: left) => .ok (c, draining left)
  | filling [] [] | circling [] [] | draining [] => .error .exhausted

end Iterator

namespace Iterator

variable {it : Iterator} {scheme : Scheme} {j : Nat}

/-- An iterator that goes on with a scheme, of whose colors some have been taken. In a palette
these are whole rounds and the front of one more. -/
inductive Continues : Iterator → Scheme → Nat → Prop
  | counting {scheme : Scheme} {color : Nat → Color} {j : Nat} :
      (∀ k, scheme.color? k = some (color k)) → Continues (counting color j) scheme j
  | repeating {color : Color} {j : Nat} : Continues (repeating color) (.uniform color) j
  | filling {saved left colors : List Color} {h : colors ≠ []} {j : Nat} :
      saved ++ left = colors → j = saved.length →
      Continues (filling saved left) (.palette colors h) j
  | circling {left colors : List Color} {h : colors ≠ []} {j : Nat} (rounds : Nat)
      (front : List Color) :
      front ++ left = colors → j = rounds * colors.length + front.length →
      Continues (circling colors left) (.palette colors h) j
  | draining {colors : List Color} {j : Nat} : Continues (draining (colors.drop j)) (.once colors) j

/-- Within a round the next color is the one behind the front. -/
theorem color_inside {front left colors : List Color} {c : Color} {h : colors ≠ []}
    (hfront : front ++ c :: left = colors) (rounds : Nat) :
    (Scheme.palette colors h).color? (rounds * colors.length + front.length) = some c := by
  subst hfront
  have hlt : front.length < (front ++ c :: left).length := by simp
  rw [Scheme.color?, Nat.mul_add_mod', Nat.mod_eq_of_lt hlt]
  simp

/-- At the end of a round the next color is the first one. -/
theorem color_around {c : Color} {rest : List Color} (h : c :: rest ≠ []) (rounds : Nat) :
    (Scheme.palette (c :: rest) h).color? (rounds * (c :: rest).length + (c :: rest).length) =
      some c := by
  rw [Scheme.color?, Nat.mul_add_mod', Nat.mod_self]
  rfl

/-- An iterator gives the next color of its scheme, if there is one. -/
theorem Continues.next (h : it.Continues scheme j) :
    match scheme.color? j with
    | some c => ∃ it', it.next = .ok (c, it') ∧ it'.Continues scheme (j + 1)
    | none => it.next = .error .exhausted := by
  cases h with
  | counting h =>
    rw [h]
    exact ⟨_, rfl, .counting h⟩
  | repeating => exact ⟨_, rfl, .repeating⟩
  | @filling saved left colors hne _ hsaved hj =>
    have hround : j = 0 * colors.length + saved.length := by omega
    cases left with
    | cons c left =>
      rw [hround, color_inside hsaved 0]
      exact ⟨_, rfl, .filling (by simpa using hsaved) (by simp)⟩
    | nil =>
      obtain rfl : saved = colors := by simpa using hsaved
      obtain ⟨c, rest, rfl⟩ := List.exists_cons_of_ne_nil hne
      rw [hround, color_around hne 0]
      exact ⟨_, rfl, .circling 1 [c] rfl (by simp)⟩
  | @circling left colors hne _ rounds front hfront hj =>
    cases left with
    | cons c left =>
      rw [hj, color_inside hfront rounds]
      exact ⟨_, rfl, .circling rounds (front ++ [c]) (by simpa using hfront) (by simp; omega)⟩
    | nil =>
      obtain rfl : front = colors := by simpa using hfront
      obtain ⟨c, rest, rfl⟩ := List.exists_cons_of_ne_nil hne
      rw [hj, color_around hne rounds]
      exact ⟨_, rfl, .circling (rounds + 1) [c] rfl (by rw [Nat.add_mul]; simp)⟩
  | @draining colors j =>
    have hcolor : (Scheme.once colors).color? j = (colors.drop j).head? := by
      rw [List.head?_drop]
      rfl
    have hnext : (Iterator.draining (colors.drop j).tail).Continues (.once colors) (j + 1) := by
      rw [List.tail_drop]
      exact .draining
    rw [hcolor]
    cases hleft : colors.drop j with
    | nil => rfl
    | cons c left =>
      rw [hleft] at hnext
      exact ⟨_, rfl, hnext⟩

end Iterator

end GlyphAlgebra
