import GlyphAlgebra.Proofs.Number.Nearest

namespace GlyphAlgebra

/-- Bits of zero, of a positive number or of infinity. -/
def Unsigned (x : Float) : Prop :=
  ∃ bits ≤ 2047 * 2 ^ 52, x = Float.ofBits (UInt64.ofNat bits)

theorem floatValue_sign_ofBits {bits : Nat} (h : bits ≤ 2047 * 2 ^ 52) :
    (floatValue (Float.ofBits (UInt64.ofNat bits))).sign = some (if bits = 0 then .eq else .gt) := by
  rw [floatValue_ofBits h]
  split
  next hinf => rw [if_neg (by omega)]; rfl
  next =>
    split
    next => rfl
    next => rw [if_neg (by omega), FloatValue.sign, if_neg (by omega)]; rfl

theorem ofBits_eq_zero_iff {bits : Nat} (h : bits ≤ 2047 * 2 ^ 52) :
    Float.ofBits (UInt64.ofNat bits) = 0 ↔ bits = 0 := by
  constructor
  · intro hzero
    have hsign := floatValue_sign_ofBits h
    rw [hzero, floatValue_zero] at hsign
    by_contra hne
    rw [if_neg hne] at hsign
    cases hsign
  · rintro rfl
    decide

/-- No number without a sign is below zero. -/
theorem Unsigned.le_zero_iff {x : Float} (h : Unsigned x) : x ≤ 0 ↔ x = 0 := by
  obtain ⟨bits, hbits, rfl⟩ := h
  rw [GlyphAlgebra.le_zero_iff, floatValue_sign_ofBits hbits, ofBits_eq_zero_iff hbits]
  by_cases hzero : bits = 0 <;> simp [hzero]

theorem assembled_unsigned (m : Nat) (e : Int) : Unsigned (assembled m e) := by
  unfold assembled
  simp only [Nat.pow_eq]
  split
  next h => exact ⟨m, by omega, rfl⟩
  next =>
    split
    next => exact ⟨2047 * 2 ^ 52, le_refl _, rfl⟩
    next h => exact ⟨_, by omega, rfl⟩

theorem nearestFloat_unsigned (num den : Nat) : Unsigned (nearestFloat num den) := by
  rw [nearestFloat_eq]
  exact assembled_unsigned _ _

theorem nearestDecimal_unsigned (digits : Nat) (e : Int) : Unsigned (nearestDecimal digits e) := by
  have hzero : Unsigned 0 := ⟨0, by decide, by decide⟩
  unfold nearestDecimal
  split
  next => exact hzero
  next =>
    split
    next => exact ⟨2047 * 2 ^ 52, le_refl _, rfl⟩
    next =>
      split
      next => exact hzero
      next => split <;> exact nearestFloat_unsigned _ _

theorem assembled_eq_zero_iff (m : Nat) : assembled m (-1074) = 0 ↔ m = 0 := by
  unfold assembled
  simp only [Nat.pow_eq]
  split
  next h => exact ofBits_eq_zero_iff (by omega)
  next h =>
    rw [show (-1074 + 1075 : Int).toNat * 2 ^ 52 + (m - 2 ^ 52) = m by omega]
    split
    next => exact ⟨fun hinf => absurd hinf (by decide), fun hm => by omega⟩
    next => exact ofBits_eq_zero_iff (by omega)

theorem roundQuotient_eq_zero_iff (num : Nat) {den : Nat} (hd : 0 < den) :
    roundQuotient num den = 0 ↔ 2 * num ≤ den := by
  have hdivision := Nat.div_add_mod num den
  have hrest := Nat.mod_lt num hd
  unfold roundQuotient
  dsimp only
  rcases Nat.eq_zero_or_pos (num / den) with hnone | hsome
  · rw [hnone, Nat.mul_zero, Nat.zero_add] at hdivision
    rw [hnone, hdivision]
    split
    next => omega
    next =>
      split
      next => omega
      next => rw [if_pos rfl]; omega
  · have hlarge : den ≤ den * (num / den) := Nat.le_mul_of_pos_right den hsome
    split
    next => omega
    next =>
      split
      next => omega
      next => split <;> omega

variable {num den : Nat}

/-- A number becomes zero if it is at most half of the least positive float. -/
theorem nearestFloat_eq_zero_iff (hn : 0 < num) (hd : 0 < den) :
    nearestFloat num den = 0 ↔ (num / den : ℚ) ≤ 2 ^ (-1075 : Int) := by
  have hpow : (2 : ℚ) ^ (-1075 : Int) < 2 ^ (-1022 : Int) :=
    zpow_lt_zpow_right₀ one_lt_two (by decide)
  by_cases hv : (2 : ℚ) ^ (-1022 : Int) ≤ num / den
  · constructor
    · intro hzero
      exact absurd ((nearestFloat_unsigned num den).le_zero_iff.mpr hzero)
        (nearestFloat_positive hd hv)
    · intro hsmall
      exact absurd hsmall (not_le.mpr (hpow.trans_le hv))
  · have he : nearestExponent num den = -1074 := by
      obtain ⟨hleast, -, h | habove⟩ := nearestExponent_spec hn hd
      · exact h
      · have hlt := habove.trans_lt (not_le.mp hv)
        have := (zpow_lt_zpow_iff_right₀ (one_lt_two (α := ℚ))).mp hlt
        omega
    have hgrid := binaryGrid_pos num hd (-1074)
    have hgridq : (0 : ℚ) < (binaryGrid num den (-1074)).2 := by exact_mod_cast hgrid
    have hhalf : (2 : ℚ) ^ (-1075 : Int) = 1 / 2 * 2 ^ (-1074 : Int) := by
      rw [show (-1075 : Int) = -1 + -1074 by decide, zpow_add₀ two_ne_zero, zpow_neg_one, one_div]
    rw [nearestFloat_eq, he, assembled_eq_zero_iff, mantissaAt, roundQuotient_eq_zero_iff _ hgrid,
      hhalf, ← div_le_iff₀ (by positivity), ← binaryGrid_ratio, div_le_div_iff₀ hgridq two_pos,
      one_mul, mul_comm]
    exact_mod_cast Iff.rfl

theorem ten_pow_le_of_log2 {n : Nat} (hn : 0 < n) : 10 ^ (n.log2 / 10 * 3) ≤ n := by
  calc 10 ^ (n.log2 / 10 * 3) = 1000 ^ (n.log2 / 10) := by rw [Nat.mul_comm, Nat.pow_mul]
    _ ≤ 1024 ^ (n.log2 / 10) := Nat.pow_le_pow_left (by decide) _
    _ = 2 ^ (10 * (n.log2 / 10)) := by rw [Nat.pow_mul]
    _ ≤ 2 ^ n.log2 := Nat.pow_le_pow_right two_pos (Nat.mul_div_le _ _)
    _ ≤ n := Nat.log2_self_le (Nat.ne_of_gt hn)

theorem lt_ten_pow_of_log2 (n : Nat) : n < 10 ^ (n.log2 / 3 + 1) := by
  calc n < 2 ^ (n.log2 + 1) := Nat.lt_log2_self
    _ ≤ 2 ^ (3 * (n.log2 / 3 + 1)) := Nat.pow_le_pow_right two_pos (by omega)
    _ = 8 ^ (n.log2 / 3 + 1) := by rw [Nat.pow_mul]
    _ ≤ 10 ^ (n.log2 / 3 + 1) := Nat.pow_le_pow_left (by decide) _

/-- Nothing from ten to the power of 401 on is near zero. -/
theorem large_decimal {digits : Nat} {e : Int} (hn : 0 < digits)
    (h : 400 < (digits.log2 / 10 * 3 : Nat) + e) :
    (2 : ℚ) ^ (-1075 : Int) < digits * 10 ^ e := by
  calc (2 : ℚ) ^ (-1075 : Int) < 2 ^ (0 : Int) := zpow_lt_zpow_right₀ one_lt_two (by decide)
    _ = 10 ^ (0 : Int) := by rw [zpow_zero, zpow_zero]
    _ ≤ 10 ^ ((digits.log2 / 10 * 3 : Nat) + e : Int) :=
      zpow_le_zpow_right₀ (by norm_num) (by omega)
    _ = 10 ^ (digits.log2 / 10 * 3) * 10 ^ e := by rw [zpow_add₀ (by norm_num), zpow_natCast]
    _ ≤ digits * 10 ^ e := by
      gcongr
      exact_mod_cast ten_pow_le_of_log2 hn

theorem small_decimal {digits : Nat} {e : Int} (h : (digits.log2 / 3 + 1 : Nat) + e < -400) :
    (digits : ℚ) * 10 ^ e ≤ 2 ^ (-1075 : Int) := by
  calc (digits : ℚ) * 10 ^ e ≤ 10 ^ (digits.log2 / 3 + 1) * 10 ^ e := by
        gcongr
        exact_mod_cast (lt_ten_pow_of_log2 digits).le
    _ = 10 ^ ((digits.log2 / 3 + 1 : Nat) + e : Int) := by
      rw [zpow_add₀ (by norm_num), zpow_natCast]
    _ ≤ 10 ^ (-(400 : Nat) : Int) := zpow_le_zpow_right₀ (by norm_num) (by omega)
    _ ≤ 2 ^ (-1200 : Int) := ten_pow_least
    _ ≤ 2 ^ (-1075 : Int) := zpow_le_zpow_right₀ one_le_two (by decide)

/-- A decimal is zero as a float exactly if it is at most half of the least positive float. -/
theorem nearestDecimal_eq_zero_iff (digits : Nat) (e : Int) :
    nearestDecimal digits e = 0 ↔ (digits : ℚ) * 10 ^ e ≤ 2 ^ (-1075 : Int) := by
  have hten {k : Nat} : 0 < Nat.pow 10 k := Nat.pow_pos (by decide)
  unfold nearestDecimal
  split
  next hzero =>
    rw [hzero, Nat.cast_zero, zero_mul]
    exact ⟨fun _ => by positivity, fun _ => rfl⟩
  next hdigits =>
    have hn : 0 < digits := Nat.pos_of_ne_zero hdigits
    split
    next hlarge =>
      exact ⟨fun hinf => absurd hinf (by decide),
        fun hsmall => absurd hsmall (not_le.mpr (large_decimal hn hlarge))⟩
    next =>
      split
      next hsmall => exact ⟨fun _ => small_decimal hsmall, fun _ => rfl⟩
      next =>
        split
        next he =>
          have hvalue := @mul_pow_toNat_div digits 1 10 (-e) (by omega)
          rw [Int.neg_neg, zpow_neg, div_inv_eq_mul, Nat.cast_one, div_one, div_one,
            Nat.cast_ofNat] at hvalue
          rw [nearestFloat_eq_zero_iff (Nat.mul_pos hn hten) one_pos, Nat.cast_one, div_one,
            Nat.pow_eq, hvalue]
        next he =>
          have hvalue := @div_mul_pow_toNat digits 1 10 (-e) (by omega)
          rw [Nat.one_mul, zpow_neg, div_inv_eq_mul, Nat.cast_one, div_one, Nat.cast_ofNat]
            at hvalue
          rw [nearestFloat_eq_zero_iff hn hten, Nat.pow_eq, hvalue]

end GlyphAlgebra
