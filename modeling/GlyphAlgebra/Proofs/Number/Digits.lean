import GlyphAlgebra.Number.Decimal
import GlyphAlgebra.Proofs.Number.Nearest
import GlyphAlgebra.Text.Digit

namespace GlyphAlgebra

theorem digitValue?_of_isDigit {c : Char} (hc : c.isDigit) :
    digitValue? c = some (c.toNat - 48) := by
  have hbounds : 48 ≤ c.toNat ∧ c.toNat ≤ 57 := Char.isDigit_iff_toNat.mp hc
  rw [digitValue?, decimalZeros, List.findSome?_cons, if_pos (by simp; omega)]

theorem isDecimalDigit_of_isDigit {c : Char} (hc : c.isDigit) : isDecimalDigit c := by
  rw [isDecimalDigit, digitValue?_of_isDigit hc]
  rfl

theorem digitsValue_ofDigitChars {cs : List Char} (hcs : ∀ c ∈ cs, c.isDigit) :
    digitsValue cs = Nat.ofDigitChars 10 cs 0 := by
  rw [Nat.ofDigitChars_eq_foldl]
  apply List.foldl_ext
  intro n c hc
  rw [digitValue?_of_isDigit (hcs c hc)]
  rfl

theorem digitsValue_toDigits (n : Nat) : digitsValue (Nat.toDigits 10 n) = n := by
  rw [digitsValue_ofDigitChars fun c hc => Nat.isDigit_of_mem_toDigits (by decide) (by decide) hc,
    Nat.ofDigitChars_ten_toDigits]

theorem digitsValue_append (cs ds : List Char) :
    digitsValue (cs ++ ds) = digitsValue cs * 10 ^ ds.length + digitsValue ds := by
  induction ds using List.reverseRecOn with
  | nil => simp [digitsValue]
  | append_singleton ds d ih =>
    have hsnoc (es : List Char) :
        digitsValue (es ++ [d]) = 10 * digitsValue es + (digitValue? d).getD 0 := by
      simp [digitsValue]
    rw [← List.append_assoc, hsnoc, ih, hsnoc, List.length_append, List.length_singleton, pow_succ]
    ring

theorem digitsValue_zeros (k : Nat) : digitsValue (List.replicate k '0') = 0 := by
  induction k with
  | zero => rfl
  | succ k ih => rw [List.replicate_succ', digitsValue_append, ih]; rfl

theorem digitsValue_lt {cs : List Char} (hcs : ∀ c ∈ cs, c.isDigit) :
    digitsValue cs < 10 ^ cs.length := by
  induction cs using List.reverseRecOn with
  | nil => decide
  | append_singleton cs c ih =>
    have hd : digitsValue [c] < 10 := by
      have hc : c.isDigit := hcs c (by simp)
      have hbounds : 48 ≤ c.toNat ∧ c.toNat ≤ 57 := Char.isDigit_iff_toNat.mp hc
      simp [digitsValue, digitValue?_of_isDigit hc]
      omega
    have := ih fun d hd => hcs d (List.mem_append_left _ hd)
    rw [digitsValue_append, List.length_append, List.length_singleton, pow_succ, pow_zero, one_mul]
    omega

theorem toDigits_bounds {n : Nat} (hn : 0 < n) :
    10 ^ ((Nat.toDigits 10 n).length - 1) ≤ n ∧ n < 10 ^ (Nat.toDigits 10 n).length := by
  have hpos : 0 < (Nat.toDigits 10 n).length := List.length_pos_iff.mpr Nat.toDigits_ne_nil
  refine ⟨?_, (Nat.length_toDigits_le_iff (by decide) hpos).mp (Nat.le_refl _)⟩
  rcases Nat.eq_or_lt_of_le (show 1 ≤ (Nat.toDigits 10 n).length by omega) with h | h
  · rw [← h]; exact hn
  · by_contra hlt
    have := (Nat.length_toDigits_le_iff (b := 10) (n := n) (by decide) (by omega)).mpr
      (Nat.lt_of_not_le hlt)
    omega

theorem dropTrailingZeros_append (cs : List Char) :
    ∃ k, cs = dropTrailingZeros cs ++ List.replicate k '0' := by
  refine ⟨(cs.reverse.takeWhile (· = '0')).length, ?_⟩
  have hzeros : cs.reverse.takeWhile (· = '0') =
      List.replicate (cs.reverse.takeWhile (· = '0')).length '0' :=
    List.eq_replicate_of_mem fun c hc => by simpa using List.mem_takeWhile_imp hc
  have hparts := congrArg List.reverse
    (List.takeWhile_append_dropWhile (p := (· = '0')) (l := cs.reverse))
  rw [List.reverse_append, List.reverse_reverse, hzeros, List.reverse_replicate] at hparts
  exact hparts.symm

/-- A positive number has its leading digit right before this place. -/
structure LeadsAt (v : ℚ) (point : Int) : Prop where
  low : 10 ^ (point - 1) ≤ v
  high : v < 10 ^ point

/-- The digits of a quotient scaled up to at least one tell where it leads. -/
theorem scaled_digits {num den shift : Nat} (hd : 0 < den)
    (hv : (10 : ℚ) ^ (-shift : Int) ≤ num / den) :
    LeadsAt (num / den) ((Nat.toDigits 10 (num * Nat.pow 10 shift / den)).length - shift) := by
  have hscale : (0 : ℚ) < 10 ^ shift := by positivity
  have hle (k : Nat) : k ≤ num * Nat.pow 10 shift / den ↔ (k : ℚ) / 10 ^ shift ≤ num / den := by
    rw [le_div_iff_cast hd, div_le_iff₀ hscale, Nat.pow_eq]
    push_cast
    rw [mul_div_right_comm]
  have hn : 0 < num * Nat.pow 10 shift / den := by
    rw [← Nat.succ_le_iff, hle]
    rwa [zpow_neg, zpow_natCast, inv_eq_one_div] at hv
  obtain ⟨hlow, hhigh⟩ := toDigits_bounds hn
  have hlength : 0 < (Nat.toDigits 10 (num * Nat.pow 10 shift / den)).length :=
    List.length_pos_iff.mpr Nat.toDigits_ne_nil
  generalize (Nat.toDigits 10 (num * Nat.pow 10 shift / den)).length = length at *
  rw [hle] at hlow
  rw [← Nat.not_le, hle, not_le] at hhigh
  have hpow (k : Nat) : (10 : ℚ) ^ (k - shift : Int) = (10 ^ k : Nat) / 10 ^ shift := by
    rw [zpow_sub₀ (by norm_num), zpow_natCast, zpow_natCast]
    push_cast
    rfl
  constructor
  · rwa [sub_right_comm, ← Nat.cast_pred hlength, hpow]
  · rwa [hpow]

theorem pointOf_spec {num den : Nat} (hd : 0 < den)
    (hv : (10 : ℚ) ^ (-(400 : Nat) : Int) ≤ num / den) :
    LeadsAt (num / den) (pointOf num den) := by
  rw [pointOf, show (400 : Int) = (400 : Nat) from rfl]
  -- the power is too large to be computed
  generalize 400 = shift at *
  exact scaled_digits hd hv

theorem decimalGrid_pos (num : Nat) {den : Nat} (hd : 0 < den) (count : Nat) (point : Int) :
    0 < (decimalGrid num den count point).2 := by
  unfold decimalGrid
  dsimp only
  split
  · exact hd
  · exact Nat.mul_pos hd (Nat.pow_pos (by decide))

theorem decimalGrid_ratio (num den count : Nat) (point : Int) :
    ((decimalGrid num den count point).1 : ℚ) / (decimalGrid num den count point).2 =
      num / den / 10 ^ (point - count) := by
  unfold decimalGrid
  dsimp only
  rw [show point - count = -(count - point) by ring]
  split
  next h =>
    have := @mul_pow_toNat_div num den 10 (-(count - point)) (by omega)
    rwa [Int.neg_neg] at this
  next h =>
    exact div_mul_pow_toNat (show 0 ≤ -(count - point) by omega)

/-- Digits of a number from the leading one on, at most six of them. -/
structure DecimalDigits.Significant (d : DecimalDigits) : Prop where
  digit : ∀ c ∈ d.digits, c.isDigit
  few : d.digits.length ≤ 6
  leading : 10 ^ (d.digits.length - 1) ≤ digitsValue d.digits
  shown : d.digits ≠ []

def DecimalDigits.value (d : DecimalDigits) : ℚ :=
  digitsValue d.digits * 10 ^ (d.point - d.digits.length)

theorem DecimalDigits.Significant.leadsAt {d : DecimalDigits} (h : d.Significant) :
    LeadsAt d.value d.point := by
  have hten : (10 : ℚ) ≠ 0 := by norm_num
  have hlength : 0 < d.digits.length := List.length_pos_iff.mpr h.shown
  have hlow : (10 : ℚ) ^ (d.digits.length - 1 : Int) ≤ digitsValue d.digits := by
    rw [← Nat.cast_pred hlength, zpow_natCast]
    exact_mod_cast h.leading
  have hhigh : (digitsValue d.digits : ℚ) < 10 ^ (d.digits.length : Int) := by
    rw [zpow_natCast]
    exact_mod_cast digitsValue_lt h.digit
  unfold DecimalDigits.value
  constructor
  · calc (10 : ℚ) ^ (d.point - 1)
        = 10 ^ (d.digits.length - 1 : Int) * 10 ^ (d.point - d.digits.length) := by
          rw [← zpow_add₀ hten]; congr 1; ring
      _ ≤ digitsValue d.digits * 10 ^ (d.point - d.digits.length) := by gcongr
  · calc (digitsValue d.digits : ℚ) * 10 ^ (d.point - d.digits.length)
        < 10 ^ (d.digits.length : Int) * 10 ^ (d.point - d.digits.length) := by gcongr
      _ = 10 ^ d.point := by rw [← zpow_add₀ hten]; congr 1; ring

/-- A number is its digits without the last zeros, and the zeros. -/
theorem trimmed_toDigits (n : Nat) :
    ∃ k, digitsValue (dropTrailingZeros (Nat.toDigits 10 n)) * 10 ^ k = n ∧
      (Nat.toDigits 10 n).length = (dropTrailingZeros (Nat.toDigits 10 n)).length + k ∧
      ∀ c ∈ dropTrailingZeros (Nat.toDigits 10 n), c.isDigit := by
  obtain ⟨k, hk⟩ := dropTrailingZeros_append (Nat.toDigits 10 n)
  have hvalue := digitsValue_toDigits n
  rw [hk, digitsValue_append, List.length_replicate, digitsValue_zeros, Nat.add_zero] at hvalue
  have hlength := congrArg List.length hk
  rw [List.length_append, List.length_replicate] at hlength
  refine ⟨k, hvalue, hlength, fun c hc => ?_⟩
  apply Nat.isDigit_of_mem_toDigits (n := n) (by decide) (Nat.le_refl 10)
  rw [hk]
  exact List.mem_append_left _ hc

theorem gridDigits_spec {n : Nat} (hn : 0 < n) (hmost : n ≤ 1000000) (point : Int) :
    (gridDigits n 6 point).Significant ∧
      (gridDigits n 6 point).value = n * 10 ^ (point - 6) := by
  have hten : (10 : ℚ) ≠ 0 := by norm_num
  obtain ⟨k, hvalue, hlength, hdigit⟩ := trimmed_toDigits n
  have hsix : (dropTrailingZeros (Nat.toDigits 10 n)).length ≤ 6 := by
    rcases Nat.eq_or_lt_of_le hmost with rfl | hlt
    · decide
    · have := (Nat.length_toDigits_le_iff (b := 10) (n := n) (by decide)
        (show 0 < 6 by decide)).mpr hlt
      omega
  obtain ⟨hlow, -⟩ := toDigits_bounds hn
  unfold gridDigits DecimalDigits.value
  dsimp only
  rw [hlength] at hlow ⊢
  generalize dropTrailingZeros (Nat.toDigits 10 n) = digits at *
  have hshown : digits ≠ [] := by
    rintro rfl
    rw [show digitsValue [] = 0 from rfl, Nat.zero_mul] at hvalue
    omega
  have hpositive : 0 < digits.length := List.length_pos_iff.mpr hshown
  subst hvalue
  refine ⟨⟨hdigit, hsix, ?_, hshown⟩, ?_⟩
  · rw [Nat.sub_add_comm hpositive, pow_add] at hlow
    exact Nat.le_of_mul_le_mul_right hlow (by positivity)
  · push_cast
    rw [mul_assoc, ← zpow_natCast (10 : ℚ) k, ← zpow_add₀ hten]
    congr 2
    ring

-- the place of the point is a variable here: with `pointOf` in it the kernel would start to
-- compute the power of ten in order to compare the two sides
theorem roundedDigits_parts (place : Nat → Nat → Int) :
    (fun num den count =>
      let point := place num den
      match decimalGrid num den count point with
      | (n, d) => gridDigits (roundQuotient n d) count point) =
    fun num den count => gridDigits (roundQuotient
      (decimalGrid num den count (place num den)).1
      (decimalGrid num den count (place num den)).2) count (place num den) :=
  rfl

theorem roundedDigits_eq :
    roundedDigits = fun num den count => gridDigits (roundQuotient
      (decimalGrid num den count (pointOf num den)).1
      (decimalGrid num den count (pointOf num den)).2) count (pointOf num den) :=
  Eq.trans rfl (roundedDigits_parts pointOf)

/-- A quotient in units of the last of six significant digits. -/
def gridValue (num den : Nat) (point : Int) : Nat :=
  roundQuotient (decimalGrid num den 6 point).1 (decimalGrid num den 6 point).2

theorem roundedDigits_six (num den : Nat) :
    roundedDigits num den 6 = gridDigits (gridValue num den (pointOf num den)) 6 (pointOf num den) := by
  rw [roundedDigits_eq]
  rfl

section grid

variable {num den n k : Nat} {point : Int}

theorem gridValue_near (num : Nat) (hd : 0 < den) (point : Int) :
    |(gridValue num den point : ℚ) - num / den / 10 ^ (point - 6)| ≤ 1 / 2 := by
  have hratio := decimalGrid_ratio num den 6 point
  rw [Nat.cast_ofNat] at hratio
  rw [← hratio]
  exact roundQuotient_near _ (decimalGrid_pos num hd 6 point)

theorem gridValue_eq (hd : 0 < den) (h : |(num / den / 10 ^ (point - 6) : ℚ) - n| < 1 / 2) :
    gridValue num den point = n := by
  have hratio := decimalGrid_ratio num den 6 point
  rw [Nat.cast_ofNat] at hratio
  rw [← hratio] at h
  exact roundQuotient_eq (decimalGrid_pos num hd 6 point) h

/-- On the grid of its six leading digits a number has six digits before the point. -/
theorem LeadsAt.six {v : ℚ} (h : LeadsAt v point) : LeadsAt (v / 10 ^ (point - 6)) 6 := by
  have hten : (10 : ℚ) ≠ 0 := by norm_num
  have hunit : (0 : ℚ) < 10 ^ (point - 6) := by positivity
  constructor
  · rw [le_div_iff₀ hunit, ← zpow_add₀ hten, show (6 - 1 + (point - 6) : Int) = point - 1 by ring]
    exact h.low
  · rw [div_lt_iff₀ hunit, ← zpow_add₀ hten, show (6 + (point - 6) : Int) = point by ring]
    exact h.high

/-- A positive number in six significant digits. -/
theorem roundedDigits_significant (hd : 0 < den)
    (hv : (10 : ℚ) ^ (-(400 : Nat) : Int) ≤ num / den) :
    (roundedDigits num den 6).Significant ∧ (roundedDigits num den 6).value =
      gridValue num den (pointOf num den) * 10 ^ (pointOf num den - 6) := by
  obtain ⟨hlow, hhigh⟩ := (pointOf_spec hd hv).six
  rw [roundedDigits_six]
  generalize pointOf num den = point at *
  have hnear := abs_le.mp (gridValue_near num hd point)
  generalize gridValue num den point = n at *
  norm_num at hlow hhigh
  apply gridDigits_spec
  · have : (0 : ℚ) < n := by linarith
    exact_mod_cast this
  · have : (n : ℚ) < (1000000 : Nat) + 1 := by push_cast; linarith
    exact Nat.lt_succ_iff.mp (by exact_mod_cast this)

/-- A decimal of six digits has no more than six behind the leading place of a number near to it,
or there would be a seventh. -/
theorem places_le {w : ℚ} (hn : n < 1000000) (hlow : 10 ^ (point - 1) ≤ w)
    (hw : w ≤ n / 10 ^ k * (1 + 1 / 2 ^ 53)) : k + point ≤ 6 := by
  by_contra hmore
  have hten : (10 : ℚ) ≠ 0 := by norm_num
  have hn' : (n : ℚ) ≤ 999999 := by exact_mod_cast Nat.le_pred_of_lt hn
  have hscaled : (10 : ℚ) ^ (6 : Int) ≤ n * (1 + 1 / 2 ^ 53) := by
    calc (10 : ℚ) ^ (6 : Int) ≤ 10 ^ (point - 1) * 10 ^ k := by
          rw [← zpow_natCast, ← zpow_add₀ hten]
          exact zpow_le_zpow_right₀ (by norm_num) (by omega)
      _ ≤ n / 10 ^ k * (1 + 1 / 2 ^ 53) * 10 ^ k := by
          gcongr
          exact hlow.trans hw
      _ = n * (1 + 1 / 2 ^ 53) := by rw [mul_right_comm, div_mul_cancel₀ _ (by positivity)]
  norm_num at hscaled
  linarith

theorem whole_on_grid (hplaces : k + point ≤ 6) :
    ((n * 10 ^ (6 - point - k).toNat : Nat) : ℚ) = n / 10 ^ k / 10 ^ (point - 6) := by
  have hten : (10 : ℚ) ≠ 0 := by norm_num
  rw [eq_div_iff (by positivity), eq_div_iff (by positivity)]
  push_cast
  rw [← zpow_natCast (10 : ℚ) (6 - point - k).toNat, Int.toNat_of_nonneg (by omega),
    ← zpow_natCast (10 : ℚ) k, mul_assoc, mul_assoc, ← zpow_add₀ hten, ← zpow_add₀ hten,
    show (6 - point - k + (point - 6 + k) : Int) = 0 by ring, zpow_zero, mul_one]

/-- A decimal of at most six digits is what a number near to it has in six significant digits. -/
theorem roundedDigits_value (hd : 0 < den) (hv : (10 : ℚ) ^ (-(400 : Nat) : Int) ≤ num / den)
    (hn : n < 1000000) (hnear : |(num / den : ℚ) - n / 10 ^ k| ≤ n / 10 ^ k * 2 ^ (-53 : Int)) :
    (roundedDigits num den 6).value = n / 10 ^ k := by
  have hsmall : (2 : ℚ) ^ (-53 : Int) = 1 / 2 ^ 53 := by norm_num
  rw [hsmall] at hnear
  rw [(roundedDigits_significant hd hv).2]
  have hleads := pointOf_spec hd hv
  generalize pointOf num den = point at *
  have hunit : (0 : ℚ) < 10 ^ (point - 6) := by positivity
  have hplaces : k + point ≤ 6 := by
    apply places_le hn hleads.low
    linarith [(abs_le.mp hnear).2]
  have hgrid : gridValue num den point = n * 10 ^ (6 - point - k).toNat := by
    apply gridValue_eq hd
    have hhigh := hleads.six.high
    rw [whole_on_grid hplaces, ← sub_div, abs_div, abs_of_pos hunit]
    rw [← div_le_div_iff_of_pos_right hunit, mul_div_right_comm] at hnear
    have hdiff : (n / 10 ^ k / 10 ^ (point - 6) : ℚ) - num / den / 10 ^ (point - 6) ≤
        |(num / den : ℚ) - n / 10 ^ k| / 10 ^ (point - 6) := by
      rw [← sub_div, abs_sub_comm]
      gcongr
      exact le_abs_self _
    norm_num at hhigh hnear
    linarith
  rw [hgrid, whole_on_grid hplaces]
  exact div_mul_cancel₀ _ (ne_of_gt hunit)

end grid

end GlyphAlgebra
