import GlyphAlgebra.Proofs.Syntax.Viability
import Mathlib.Algebra.GroupWithZero.Nat
import Mathlib.Data.List.TakeWhile
import Mathlib.Data.Prod.Lex

namespace GlyphAlgebra

/-- The offset of a line and a column, found from the lengths of the lines before. -/
def offsetAt (lines : List (List Char)) (line column : Nat) : Nat :=
  ((lines.take (line - 1)).map List.length).sum + (line - 1) + (column - 1)

/-- The place of the last newline before an offset, searched for backwards; -1 if there is none. -/
def newlineBefore (text : List Char) : Nat → Int
  | 0 => -1
  | k + 1 => if text[k]? = some '\n' then k else newlineBefore text k

/-- There is such a line, and the column is that of one of its characters or just behind them. -/
structure Locates (lines : List (List Char)) (line column offset : Nat) : Prop where
  line_pos : 1 ≤ line
  column_pos : 1 ≤ column
  within : ∃ l, lines[line - 1]? = some l ∧ column ≤ l.length + 1
  offset_eq : offsetAt lines line column = offset

namespace Locates

variable {lines : List (List Char)} {l : List Char} {line column offset : Nat}

theorem start (h : lines ≠ []) : Locates lines 1 1 0 := by
  obtain ⟨l, lines, rfl⟩ := List.exists_cons_of_ne_nil h
  exact ⟨Nat.le_refl 1, Nat.le_refl 1, ⟨l, rfl, Nat.le_add_left 1 _⟩, rfl⟩

theorem newline (h : Locates lines line column offset) :
    Locates ([] :: lines) (line + 1) column (offset + 1) := by
  obtain ⟨hline, hcolumn, hwithin, rfl⟩ := h
  obtain ⟨k, rfl⟩ := Nat.exists_eq_add_of_le' hline
  refine ⟨by omega, hcolumn, hwithin, ?_⟩
  simp only [offsetAt, Nat.add_one_sub_one, List.take_succ_cons, List.map_cons, List.length_nil,
    List.sum_cons]
  omega

theorem widen (c : Char) (h : Locates (l :: lines) line column offset) :
    Locates ((c :: l) :: lines) line (if line = 1 then column + 1 else column) (offset + 1) := by
  obtain ⟨hline, hcolumn, ⟨l', hl', hle⟩, rfl⟩ := h
  obtain ⟨k, rfl⟩ := Nat.exists_eq_add_of_le' hline
  cases k with
  | zero =>
    cases hl'
    refine ⟨hline, by simp, ⟨c :: l, rfl, by simpa using hle⟩, ?_⟩
    simp only [offsetAt, if_true, Nat.add_one_sub_one, List.take_zero]
    omega
  | succ k =>
    refine ⟨hline, hcolumn, ⟨l', hl', hle⟩, ?_⟩
    simp only [offsetAt, Nat.add_one_sub_one, List.take_succ_cons, List.map_cons,
      List.length_cons, List.sum_cons, Nat.add_eq_right, Nat.succ_ne_zero, if_false]
    omega

end Locates

section positions

variable {text : List Char} {offset : Nat}

/-- A newline ends its line, and any other character widens it. -/
theorem textPosition_succ {c : Char} (h : text[offset]? = some c) :
    textPosition text (offset + 1) =
      if c = '\n' then ((textPosition text offset).1 + 1, 1)
      else ((textPosition text offset).1, (textPosition text offset).2 + 1) := by
  have htake : text.take (offset + 1) = text.take offset ++ [c] := by
    rw [List.take_add_one, h]
    rfl
  rw [textPosition, htake]
  by_cases hc : c = '\n'
  · subst hc
    simp [textPosition]
  · simp [textPosition, hc]

/-- What stands at the front is reached from behind only if no newline is in between. -/
theorem takeWhile_reverse_cons (c : Char) (before : List Char) :
    (c :: before).reverse.takeWhile (· ≠ '\n') =
      before.reverse.takeWhile (· ≠ '\n') ++ if '\n' ∈ c :: before then [] else [c] := by
  rw [List.reverse_cons]
  by_cases hmem : '\n' ∈ before
  · rw [if_pos (List.mem_cons_of_mem c hmem), List.append_nil, List.takeWhile_append, if_neg]
    intro hlength
    have hall := List.takeWhile_eq_self_iff.mp ((List.takeWhile_prefix _).eq_of_length hlength)
    simpa using hall '\n' (List.mem_reverse.mpr hmem)
  · have hall : ∀ d ∈ before.reverse, decide (d ≠ '\n') = true := by
      intro d hd
      exact decide_eq_true (ne_of_mem_of_not_mem (List.mem_reverse.mp hd) hmem)
    rw [List.takeWhile_append_of_pos hall, List.takeWhile_eq_self_iff.mpr hall]
    by_cases hc : c = '\n'
    · simp [hc]
    · simp [hc, Ne.symm hc, hmem]

/-- A newline in front moves all else down by a line, any other character widens the first line. -/
theorem textPosition_cons (c : Char) (text : List Char) (offset : Nat) :
    textPosition (c :: text) (offset + 1) =
      let (line, column) := textPosition text offset
      if c = '\n' then (line + 1, column)
      else (line, if line = 1 then column + 1 else column) := by
  simp only [textPosition, List.take_succ_cons, takeWhile_reverse_cons]
  by_cases hc : c = '\n'
  · simp [hc]
  · by_cases hmem : '\n' ∈ text.take offset
    · simp [hc, hmem, List.count_eq_zero]
    · simp [hc, Ne.symm hc, hmem, List.count_eq_zero]

theorem column_eq_search (h : offset ≤ text.length) :
    ((textPosition text offset).2 : Int) = offset - (newlineBefore text offset + 1) + 1 := by
  induction offset with
  | zero => rfl
  | succ k ih =>
    have hk : text[k]? = some text[k] := List.getElem?_eq_getElem h
    rw [textPosition_succ hk, newlineBefore, hk]
    by_cases hc : text[k] = '\n'
    · simp [hc]
    · have hrest := ih (Nat.le_of_succ_le h)
      simp only [hc, Option.some.injEq, if_false]
      push_cast
      omega

theorem textPosition_lt_succ (h : offset < text.length) :
    toLex (textPosition text offset) < toLex (textPosition text (offset + 1)) := by
  rw [textPosition_succ (List.getElem?_eq_getElem h), Prod.Lex.toLex_lt_toLex]
  split
  next => exact .inl (Nat.lt_succ_self _)
  next => exact .inr ⟨rfl, Nat.lt_succ_self _⟩

theorem textPosition_lt {offset' : Nat} (h : offset < offset') (hle : offset' ≤ text.length) :
    toLex (textPosition text offset) < toLex (textPosition text offset') := by
  induction h with
  | refl => exact textPosition_lt_succ hle
  | step _ ih => exact (ih (Nat.le_of_succ_le hle)).trans (textPosition_lt_succ hle)

theorem textPosition_locates (h : offset ≤ text.length) :
    Locates (text.splitOn '\n') (textPosition text offset).1 (textPosition text offset).2
      offset := by
  -- From the front, since a character there changes only the first of the lines.
  induction text generalizing offset with
  | nil =>
    obtain rfl : offset = 0 := Nat.le_zero.mp h
    exact .start (List.splitOn_ne_nil _ _)
  | cons c text ih =>
    cases offset with
    | zero => exact .start (List.splitOn_ne_nil _ _)
    | succ offset =>
      have hrest := ih (Nat.le_of_succ_le_succ h)
      obtain ⟨l, lines, hlines⟩ := List.exists_cons_of_ne_nil (List.splitOn_ne_nil '\n' text)
      rw [List.splitOn_cons_eq_if_modifyHead, textPosition_cons]
      by_cases hc : c = '\n'
      · simp only [hc, BEq.rfl, if_true]
        exact hrest.newline
      · rw [hlines] at hrest ⊢
        simp only [hc, beq_iff_eq, if_false, List.modifyHead_cons]
        exact hrest.widen c

end positions

theorem failure_position {text : String} {d : Diagnostic} (h : (parse text).failure = some d) :
    ∃ offset ≤ text.length, d.offset = offset ∧
      d.line = (textPosition text.toList offset).1 ∧
      d.column = (textPosition text.toList offset).2 := by
  obtain ⟨err, hparse, rfl⟩ := parse_failure h
  refine ⟨err.offset text.toList, ?_, rfl, rfl, rfl⟩
  rcases parseTokens_error hparse with ⟨front, t, back, r, hts, -, ha⟩ | ⟨r, -, hf⟩
  · obtain ⟨-, -, hle⟩ := scanFrom_within (show t ∈ scan text by simp [hts])
    rw [String.length_toList] at hle
    simp only [SyntaxError.offset, advance_error_found ha]
    omega
  · simp only [SyntaxError.offset, finish_error_found hf, String.length_toList, Nat.le_refl]

/-- A line and a column tell their offset. They are those of a character of the text or of the end
of a line, they grow with the offset, and a search for the last newline gives the same column. The
offset of a failure is that of its line and its column. -/
theorem textPosition_faithful (text : String) :
    let lines := text.toList.splitOn '\n'
    (∀ offset ≤ text.length,
      let (line, column) := textPosition text.toList offset
      Locates lines line column offset ∧ line ≤ 1 + text.toList.count '\n' ∧
        (column : Int) = offset - (newlineBefore text.toList offset + 1) + 1) ∧
    (∀ offset offset', offset < offset' → offset' ≤ text.length →
      toLex (textPosition text.toList offset) < toLex (textPosition text.toList offset')) ∧
    ∀ d, (parse text).failure = some d →
      d.offset = offsetAt lines d.line.toNat d.column.toNat := by
  intro lines
  have hlocates {offset : Nat} (h : offset ≤ text.length) :
      Locates lines (textPosition text.toList offset).1 (textPosition text.toList offset).2
        offset :=
    textPosition_locates (by rwa [String.length_toList])
  refine ⟨fun offset h => ⟨hlocates h, ?_, ?_⟩, fun offset offset' h hle => ?_, fun d hd => ?_⟩
  · have hcount := (List.take_sublist offset text.toList).count_le '\n'
    show (text.toList.take offset).count '\n' + 1 ≤ 1 + text.toList.count '\n'
    omega
  · exact column_eq_search (by rwa [String.length_toList])
  · exact textPosition_lt h (by rwa [String.length_toList])
  · obtain ⟨offset, hle, hoffset, hline, hcolumn⟩ := failure_position hd
    rw [hoffset, hline, hcolumn, Int.toNat_natCast, Int.toNat_natCast, (hlocates hle).offset_eq]

theorem textPosition_faithful_second_line :
    let lines := "A +\n+".toList.splitOn '\n'
    4 ≤ "A +\n+".length ∧ Locates lines 2 1 4 ∧
      toLex (textPosition "A +\n+".toList 3) < toLex (textPosition "A +\n+".toList 4) ∧
      ∃ d, (parse "A +\n+").failure = some d ∧ d.offset = offsetAt lines 2 1 := by
  have hle : 4 ≤ "A +\n+".length := by decide
  have hfailure : (parse "A +\n+").failure.map (fun d => (d.line, d.column)) = some (2, 1) := by
    decide +kernel
  obtain ⟨hlocates, hgrows, hfailures⟩ := textPosition_faithful "A +\n+"
  obtain ⟨d, hd, hposition⟩ := Option.map_eq_some_iff.mp hfailure
  obtain ⟨hline, hcolumn⟩ := Prod.mk.inj hposition
  have hoffset := hfailures d hd
  rw [hline, hcolumn] at hoffset
  exact ⟨hle, (hlocates 4 hle).1, hgrows 3 4 (by decide) hle, d, hd, hoffset⟩

end GlyphAlgebra
