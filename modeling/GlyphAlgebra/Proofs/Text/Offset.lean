import GlyphAlgebra.Token

namespace GlyphAlgebra

theorem nextToken_length (c : Char) (cs : List Char) :
    (nextToken c cs).1.text.length + (nextToken c cs).2.length = cs.length + 1 := by
  have h := congrArg List.length (nextToken_append c cs)
  rw [List.length_append, String.length_toList] at h
  exact h

/-- Each token lies within the text that is scanned, and takes up some of it. -/
theorem scanFrom_within {offset : Nat} {cs : List Char} {t : PlacedToken}
    (h : t ∈ scanFrom offset cs) :
    offset ≤ t.offset ∧ 0 < t.token.text.length ∧
      t.offset + t.token.text.length ≤ offset + cs.length := by
  fun_induction scanFrom offset cs with
  | case1 => simp at h
  | case2 offset c cs hs ih =>
    have hrest := ih h
    simp only [List.length_cons]
    omega
  | case3 offset c cs hs hrest ih =>
    have hlen := nextToken_length c cs
    simp only [List.length_cons]
    rcases List.mem_cons.mp h with rfl | h
    · dsimp only
      omega
    · have hrest := ih h
      omega

/-- The tokens come in the order of the text and do not overlap. -/
theorem scanFrom_ordered (offset : Nat) (cs : List Char) :
    (scanFrom offset cs).Pairwise fun t u => t.offset + t.token.text.length ≤ u.offset := by
  fun_induction scanFrom offset cs with
  | case1 => exact .nil
  | case2 _ _ _ _ ih => exact ih
  | case3 offset c cs hs hrest ih =>
    exact List.pairwise_cons.mpr ⟨fun u hu => (scanFrom_within hu).1, ih⟩

theorem scan_divided {text : String} {front back : List PlacedToken} {t : PlacedToken}
    (h : scan text = front ++ t :: back) :
    (∀ u ∈ front, u.offset < t.offset) ∧ ∀ u ∈ back, t.offset < u.offset := by
  have hordered := scanFrom_ordered 0 text.toList
  have hscan : scanFrom 0 text.toList = front ++ t :: back := h
  have hpos {u : PlacedToken} (hu : u ∈ front ++ t :: back) : 0 < u.token.text.length :=
    (scanFrom_within (hscan ▸ hu)).2.1
  rw [hscan] at hordered
  obtain ⟨_, hback, hfront⟩ := List.pairwise_append.mp hordered
  constructor
  · intro u hu
    have hle := hfront u hu t (List.mem_cons_self ..)
    have hu' := hpos (List.mem_append_left _ hu)
    omega
  · intro u hu
    have hle := (List.pairwise_cons.mp hback).1 u hu
    have ht := hpos (List.mem_append_right front (List.mem_cons_self ..))
    omega

/-- A token is told by its offset. -/
theorem eq_of_offset_eq {text : String} {t u : PlacedToken} (ht : t ∈ scan text)
    (hu : u ∈ scan text) (h : u.offset = t.offset) : u = t := by
  obtain ⟨front, back, hsplit⟩ := List.append_of_mem ht
  obtain ⟨hfront, hback⟩ := scan_divided hsplit
  rw [hsplit, List.mem_append, List.mem_cons] at hu
  rcases hu with hu | rfl | hu
  · exact absurd h (Nat.ne_of_lt (hfront u hu))
  · rfl
  · exact absurd h (Nat.ne_of_gt (hback u hu))

/-- The tokens that lie before an offset. -/
def tokensBefore (offset : Int) (ts : List PlacedToken) : List Token :=
  (ts.filter fun t => t.offset < offset).map PlacedToken.token

theorem tokensBefore_placed {text : String} {front back : List PlacedToken} {t : PlacedToken}
    (h : scan text = front ++ t :: back) :
    tokensBefore t.offset (scan text) = front.map PlacedToken.token := by
  obtain ⟨hfront, hback⟩ := scan_divided h
  have hbefore : front.filter (fun u => decide ((u.offset : Int) < t.offset)) = front := by
    apply List.filter_eq_self.mpr
    intro u hu
    simpa using hfront u hu
  have hbehind : back.filter (fun u => decide ((u.offset : Int) < t.offset)) = [] := by
    apply List.filter_eq_nil_iff.mpr
    intro u hu
    simpa using Nat.le_of_lt (hback u hu)
  rw [tokensBefore, h, List.filter_append, hbefore, List.filter_cons_of_neg (by simp), hbehind,
    List.append_nil]

theorem tokensBefore_end (text : String) :
    tokensBefore text.length (scan text) = (scan text).map PlacedToken.token := by
  have hall : (scan text).filter (fun t => decide ((t.offset : Int) < text.length)) =
      scan text := by
    apply List.filter_eq_self.mpr
    intro t ht
    obtain ⟨_, hpos, hle⟩ := scanFrom_within ht
    rw [String.length_toList] at hle
    simp only [decide_eq_true_eq]
    omega
  rw [tokensBefore, hall]

end GlyphAlgebra
