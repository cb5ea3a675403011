import GlyphAlgebra.Proofs.Number.Bits

namespace GlyphAlgebra

theorem roundQuotient_mul (num den : Nat) {c : Nat} (hc : 0 < c) :
    roundQuotient (num * c) (den * c) = roundQuotient num den := by
  have hlt {a b : Nat} : 2 * (a * c) < b * c ↔ 2 * a < b := by
    rw [← Nat.mul_assoc, Nat.mul_lt_mul_right hc]
  have hgt {a b : Nat} : b * c < 2 * (a * c) ↔ b < 2 * a := by
    rw [← Nat.mul_assoc, Nat.mul_lt_mul_right hc]
  simp only [roundQuotient, Nat.mul_div_mul_right _ _ hc, Nat.mul_mod_mul_right, hlt, hgt]

/-- Rounding depends on the quotient alone. -/
theorem roundQuotient_congr {num den num' den' : Nat} (hd : 0 < den) (hd' : 0 < den')
    (h : (num / den : ℚ) = num' / den') : roundQuotient num den = roundQuotient num' den' := by
  rw [div_eq_div_iff (by positivity) (by positivity)] at h
  have h : num * den' = num' * den := by exact_mod_cast h
  rw [← roundQuotient_mul num den hd', h, Nat.mul_comm den, roundQuotient_mul num' den' hd]

theorem roundQuotient_near (num : Nat) {den : Nat} (hd : 0 < den) :
    |(roundQuotient num den : ℚ) - num / den| ≤ 1 / 2 := by
  have hdq : (0 : ℚ) < den := by exact_mod_cast hd
  have hsum : (num : ℚ) / den = (num / den : Nat) + (num % den : Nat) / den := by
    field_simp
    exact_mod_cast (Nat.div_add_mod num den).symm
  have hlow : (0 : ℚ) ≤ (num % den : Nat) / den := by positivity
  have hhigh : ((num % den : Nat) : ℚ) / den < 1 :=
    (div_lt_one hdq).mpr (by exact_mod_cast Nat.mod_lt num hd)
  -- the rest against a half, as the comparison of the rounding has it
  have hle (h : 2 * (num % den) ≤ den) : ((num % den : Nat) : ℚ) / den ≤ 1 / 2 := by
    rw [div_le_div_iff₀ hdq (by norm_num)]
    exact_mod_cast (by omega : num % den * 2 ≤ 1 * den)
  have hge (h : den ≤ 2 * (num % den)) : 1 / 2 ≤ ((num % den : Nat) : ℚ) / den := by
    rw [div_le_div_iff₀ (by norm_num) hdq]
    exact_mod_cast (by omega : 1 * den ≤ num % den * 2)
  rw [hsum, abs_le]
  unfold roundQuotient
  dsimp only
  split
  next h =>
    have := hle (by omega)
    constructor <;> linarith
  next h =>
    split
    next h' =>
      have := hge (by omega)
      push_cast
      constructor <;> linarith
    next h' =>
      have := hle (by omega)
      have := hge (by omega)
      split <;> push_cast <;> constructor <;> linarith

theorem roundQuotient_eq {num den whole : Nat} (hd : 0 < den)
    (h : |(num : ℚ) / den - whole| < 1 / 2) : roundQuotient num den = whole := by
  have hnear := abs_le.mp (roundQuotient_near num hd)
  have hwhole := abs_lt.mp h
  have hlow : (roundQuotient num den : ℚ) < whole + 1 := by linarith
  have hhigh : (whole : ℚ) < roundQuotient num den + 1 := by linarith
  have hlow : roundQuotient num den < whole + 1 := by exact_mod_cast hlow
  have hhigh : whole < roundQuotient num den + 1 := by exact_mod_cast hhigh
  omega

section quotients

variable {num den base : Nat} {e : Int}

theorem div_mul_pow_toNat (he : 0 ≤ e) :
    (num : ℚ) / (den * base ^ e.toNat : Nat) = num / den / base ^ e := by
  obtain ⟨n, rfl⟩ := Int.eq_ofNat_of_zero_le he
  rw [Int.toNat_natCast, zpow_natCast]
  push_cast
  rw [div_div]

theorem mul_pow_toNat_div (he : e ≤ 0) :
    ((num * base ^ (-e).toNat : Nat) : ℚ) / den = num / den / base ^ e := by
  obtain ⟨n, hn⟩ := Int.eq_ofNat_of_zero_le (show 0 ≤ -e by omega)
  obtain rfl : e = -(n : Int) := by omega
  rw [Int.neg_neg, Int.toNat_natCast, zpow_neg, zpow_natCast, div_inv_eq_mul]
  push_cast
  ring

theorem two_pow_log2_div (hn : 0 < num) (hd : 0 < den) :
    (2 : ℚ) ^ (num.log2 - den.log2 - 1 : Int) < num / den ∧
      (num / den : ℚ) < 2 ^ (num.log2 - den.log2 + 1 : Int) := by
  have hdq : (0 : ℚ) < den := by exact_mod_cast hd
  have hn1 : (2 : ℚ) ^ (num.log2 : Int) ≤ num := by
    exact_mod_cast Nat.log2_self_le (Nat.ne_of_gt hn)
  have hn2 : (num : ℚ) < 2 ^ (num.log2 + 1 : Int) := by
    exact_mod_cast Nat.lt_log2_self (n := num)
  have hd1 : (2 : ℚ) ^ (den.log2 : Int) ≤ den := by
    exact_mod_cast Nat.log2_self_le (Nat.ne_of_gt hd)
  have hd2 : (den : ℚ) < 2 ^ (den.log2 + 1 : Int) := by
    exact_mod_cast Nat.lt_log2_self (n := den)
  constructor
  · rw [lt_div_iff₀ hdq]
    calc (2 : ℚ) ^ (num.log2 - den.log2 - 1 : Int) * den
        < 2 ^ (num.log2 - den.log2 - 1 : Int) * 2 ^ (den.log2 + 1 : Int) := by gcongr
      _ = 2 ^ (num.log2 : Int) := by rw [← zpow_add₀ two_ne_zero]; congr 1; ring
      _ ≤ num := hn1
  · rw [div_lt_iff₀ hdq]
    calc (num : ℚ) < 2 ^ (num.log2 + 1 : Int) := hn2
      _ = 2 ^ (num.log2 - den.log2 + 1 : Int) * 2 ^ (den.log2 : Int) := by
        rw [← zpow_add₀ two_ne_zero]; congr 1; ring
      _ ≤ 2 ^ (num.log2 - den.log2 + 1 : Int) * den := by gcongr

end quotients

/-- At this exponent a positive number has a mantissa of 53 bits, or there is no lesser one. -/
structure ExponentOf (v : ℚ) (e : Int) : Prop where
  least : -1074 ≤ e
  below : v < 2 ^ (e + 53)
  above : e = -1074 ∨ 2 ^ (e + 52) ≤ v

theorem ExponentOf.unique {v : ℚ} {e f : Int} (he : ExponentOf v e) (hf : ExponentOf v f) :
    e = f := by
  have hle {e f : Int} (he : ExponentOf v e) (hf : ExponentOf v f) : f ≤ e := by
    rcases hf.above with h | h
    · rw [h]; exact he.least
    · have := (zpow_lt_zpow_iff_right₀ (one_lt_two (α := ℚ))).mp (h.trans_lt he.below)
      omega
  exact Int.le_antisymm (hle hf he) (hle he hf)

theorem le_div_iff_cast {n d k : Nat} (hd : 0 < d) : k ≤ n / d ↔ (k : ℚ) ≤ n / d := by
  rw [Nat.le_div_iff_mul_le hd, le_div_iff₀ (by exact_mod_cast hd)]
  exact_mod_cast Iff.rfl

/-- A quotient in units of a power of two. -/
def binaryGrid (num den : Nat) (e : Int) : Nat × Nat :=
  if 0 ≤ e then (num, den * Nat.pow 2 e.toNat) else (num * Nat.pow 2 (-e).toNat, den)

theorem binaryGrid_pos (num : Nat) {den : Nat} (hd : 0 < den) (e : Int) :
    0 < (binaryGrid num den e).2 := by
  unfold binaryGrid
  split
  · exact Nat.mul_pos hd (Nat.pow_pos two_pos)
  · exact hd

theorem binaryGrid_ratio (num den : Nat) (e : Int) :
    ((binaryGrid num den e).1 : ℚ) / (binaryGrid num den e).2 = num / den / 2 ^ e := by
  unfold binaryGrid
  split
  next h => exact div_mul_pow_toNat h
  next h => exact mul_pow_toNat_div (by omega)

theorem nearestExponent_spec {num den : Nat} (hn : 0 < num) (hd : 0 < den) :
    ExponentOf (num / den) (nearestExponent num den) := by
  obtain ⟨hbelow, habove⟩ := two_pow_log2_div hn hd
  have heq : nearestExponent num den = (let low := max (num.log2 - den.log2 - 53 : Int) (-1074)
      let grid := binaryGrid num den low
      if Nat.pow 2 53 ≤ grid.1 / grid.2 then low + 1 else low) := rfl
  rw [heq]
  dsimp only
  generalize hlow : max ((num.log2 : Int) - den.log2 - 53) (-1074) = low
  have htest : Nat.pow 2 53 ≤ (binaryGrid num den low).1 / (binaryGrid num den low).2 ↔
      (2 : ℚ) ^ (low + 53) ≤ num / den := by
    rw [le_div_iff_cast (binaryGrid_pos num hd low), binaryGrid_ratio, le_div_iff₀ (by positivity),
      zpow_add₀ two_ne_zero, mul_comm]
    norm_cast
  split
  next h =>
    rw [htest] at h
    refine ⟨by omega, habove.trans_le ?_, .inr (by rwa [add_assoc])⟩
    exact zpow_le_zpow_right₀ one_le_two (by omega)
  next h =>
    rw [htest, not_le] at h
    refine ⟨by omega, h, ?_⟩
    rcases max_choice ((num.log2 : Int) - den.log2 - 53) (-1074) with hmax | hmax
    · refine .inr (le_trans ?_ hbelow.le)
      exact zpow_le_zpow_right₀ one_le_two (by omega)
    · exact .inl (by omega)

/-- The mantissa of a quotient at an exponent. -/
def mantissaAt (num den : Nat) (e : Int) : Nat :=
  roundQuotient (binaryGrid num den e).1 (binaryGrid num den e).2

theorem mantissaAt_near (num : Nat) {den : Nat} (hd : 0 < den) (e : Int) :
    |(mantissaAt num den e : ℚ) - num / den / 2 ^ e| ≤ 1 / 2 := by
  rw [← binaryGrid_ratio]
  exact roundQuotient_near _ (binaryGrid_pos num hd e)

/-- A float made of a mantissa, which rounding may have brought to 54 bits, and an exponent. -/
def assembled (mantissa : Nat) (exponent : Int) : Float :=
  if mantissa < Nat.pow 2 52 then Float.ofBits (UInt64.ofNat mantissa)
  else
    let bits := (exponent + 1075).toNat * Nat.pow 2 52 + (mantissa - Nat.pow 2 52)
    if 2047 * Nat.pow 2 52 ≤ bits then Float.ofBits 0x7ff0000000000000
    else Float.ofBits (UInt64.ofNat bits)

theorem nearestFloat_eq (num den : Nat) :
    nearestFloat num den =
      assembled (mantissaAt num den (nearestExponent num den)) (nearestExponent num den) := by
  unfold nearestFloat mantissaAt binaryGrid
  dsimp only
  split <;> rfl

theorem nearestFloat_congr {num den num' den' : Nat} (hn : 0 < num) (hd : 0 < den) (hn' : 0 < num')
    (hd' : 0 < den') (h : (num / den : ℚ) = num' / den') :
    nearestFloat num den = nearestFloat num' den' := by
  have he : nearestExponent num den = nearestExponent num' den' :=
    (h ▸ nearestExponent_spec hn hd).unique (nearestExponent_spec hn' hd')
  rw [nearestFloat_eq, nearestFloat_eq, he]
  congr 1
  apply roundQuotient_congr (binaryGrid_pos num hd _) (binaryGrid_pos num' hd' _)
  rw [binaryGrid_ratio, binaryGrid_ratio, h]

theorem assembled_value {m : Nat} {e : Int} (he : -1074 ≤ e) (hlow : 2 ^ 52 ≤ m)
    (hhigh : m ≤ 2 ^ 53) :
    (971 ≤ e ∧ floatValue (assembled m e) = .infinite false) ∨
      ∃ m' e', floatValue (assembled m e) = .finite false m' e' ∧ 0 < m' ∧
        (m' : ℚ) * 2 ^ e' = m * 2 ^ e := by
  obtain ⟨k, hk⟩ := Int.eq_ofNat_of_zero_le (show 0 ≤ e + 1075 by omega)
  unfold assembled
  rw [if_neg (by simp only [Nat.pow_eq]; omega), hk, Int.toNat_natCast]
  simp only [Nat.pow_eq]
  split
  next h => exact .inl ⟨by omega, by decide⟩
  next h =>
    refine .inr ?_
    rw [floatValue_ofBits (by omega), if_neg (by omega), if_neg (by omega)]
    refine ⟨_, _, rfl, by omega, ?_⟩
    rcases Nat.eq_or_lt_of_le hhigh with rfl | hlt
    · rw [show (k * 2 ^ 52 + (2 ^ 53 - 2 ^ 52)) % 2 ^ 52 = 0 by omega,
        show (k * 2 ^ 52 + (2 ^ 53 - 2 ^ 52)) / 2 ^ 52 = k + 1 by omega,
        show ((k + 1 : Nat) : Int) - 1075 = e + 1 by omega, zpow_add_one₀ two_ne_zero]
      push_cast
      ring
    · rw [show 2 ^ 52 + (k * 2 ^ 52 + (m - 2 ^ 52)) % 2 ^ 52 = m by omega,
        show (k * 2 ^ 52 + (m - 2 ^ 52)) / 2 ^ 52 = k by omega, show (k : Int) - 1075 = e by omega]

/-- A number in the range of an exponent has a mantissa of 53 bits there, or rounds up to one more. -/
theorem mantissaAt_bounds {num den : Nat} {e : Int} (hd : 0 < den)
    (hlow : (2 : ℚ) ^ (e + 52) ≤ num / den) (hhigh : (num / den : ℚ) < 2 ^ (e + 53)) :
    2 ^ 52 ≤ mantissaAt num den e ∧ mantissaAt num den e ≤ 2 ^ 53 := by
  have hpos : (0 : ℚ) < 2 ^ e := by positivity
  have hnear := abs_le.mp (mantissaAt_near num hd e)
  have hlow : (2 : ℚ) ^ (52 : Int) ≤ num / den / 2 ^ e := by
    rwa [le_div_iff₀ hpos, ← zpow_add₀ two_ne_zero, add_comm]
  have hhigh : (num / den / 2 ^ e : ℚ) < 2 ^ (53 : Int) := by
    rwa [div_lt_iff₀ hpos, ← zpow_add₀ two_ne_zero, add_comm]
  constructor
  · have : ((2 ^ 52 : Nat) : ℚ) < mantissaAt num den e + 1 := by
      push_cast
      linarith
    exact Nat.lt_succ_iff.mp (by exact_mod_cast this)
  · have : (mantissaAt num den e : ℚ) < (2 ^ 53 : Nat) + 1 := by
      push_cast
      linarith
    exact Nat.lt_succ_iff.mp (by exact_mod_cast this)

/-- Half a unit of the mantissa is small against the number. -/
theorem mantissaAt_error {num den : Nat} {e : Int} (hd : 0 < den)
    (hlow : (2 : ℚ) ^ (e + 52) ≤ num / den) :
    |(mantissaAt num den e : ℚ) * 2 ^ e - num / den| ≤ num / den * 2 ^ (-53 : Int) := by
  have hpos : (0 : ℚ) < 2 ^ e := by positivity
  have hscaled : (mantissaAt num den e : ℚ) * 2 ^ e - num / den =
      (mantissaAt num den e - num / den / 2 ^ e) * 2 ^ e := by
    field_simp
  rw [hscaled, abs_mul, abs_of_pos hpos]
  calc |(mantissaAt num den e : ℚ) - num / den / 2 ^ e| * 2 ^ e
      ≤ 1 / 2 * 2 ^ e := by gcongr; exact mantissaAt_near num hd e
    _ = 2 ^ (e + 52) * 2 ^ (-53 : Int) := by
      rw [zpow_add₀ two_ne_zero]
      norm_num
      ring
    _ ≤ num / den * 2 ^ (-53 : Int) := by gcongr

/-- The float nearest to a number that is not very small is infinite, which takes a very large
one, or differs from it by at most half a unit in 53 bits. -/
theorem nearestFloat_value {num den : Nat} (hd : 0 < den)
    (hv : (2 : ℚ) ^ (-1022 : Int) ≤ num / den) :
    (2 ^ 1000 ≤ (num / den : ℚ) ∧ floatValue (nearestFloat num den) = .infinite false) ∨
      ∃ m e, floatValue (nearestFloat num den) = .finite false m e ∧ 0 < m ∧
        |(m : ℚ) * 2 ^ e - num / den| ≤ num / den * 2 ^ (-53 : Int) := by
  have hn : 0 < num := by
    have hpos : (0 : ℚ) < num / den := lt_of_lt_of_le (by positivity) hv
    rcases Nat.eq_zero_or_pos num with rfl | h
    · rw [Nat.cast_zero, zero_div] at hpos
      exact absurd hpos (lt_irrefl 0)
    · exact h
  obtain ⟨hleast, hbelow, habove⟩ := nearestExponent_spec hn hd
  rw [nearestFloat_eq]
  generalize nearestExponent num den = e at *
  have hnormal : (2 : ℚ) ^ (e + 52) ≤ num / den := by
    rcases habove with rfl | h
    · exact hv
    · exact h
  obtain ⟨hmlow, hmhigh⟩ := mantissaAt_bounds hd hnormal hbelow
  rcases assembled_value hleast hmlow hmhigh with ⟨he, hinf⟩ | ⟨m, f, hfin, hm, hmf⟩
  · refine .inl ⟨le_trans ?_ hnormal, hinf⟩
    rw [← zpow_natCast]
    exact zpow_le_zpow_right₀ one_le_two (by push_cast; omega)
  · refine .inr ⟨m, f, hfin, hm, ?_⟩
    rw [hmf]
    exact mantissaAt_error hd hnormal

/-- Ten to the power of -400 is far below any float. -/
theorem ten_pow_least : (10 : ℚ) ^ (-(400 : Nat) : Int) ≤ 2 ^ (-1200 : Int) := by
  calc (10 : ℚ) ^ (-(400 : Nat) : Int) ≤ 8 ^ (-(400 : Nat) : Int) := by
        rw [zpow_neg, zpow_neg, zpow_natCast, zpow_natCast]
        gcongr
        norm_num
    _ = 2 ^ (-1200 : Int) := by
        rw [show (8 : ℚ) = 2 ^ (3 : Int) by norm_num, ← zpow_mul]
        norm_num

theorem quotientOf_pos (m : Nat) (e : Int) : 0 < (quotientOf m e).2 := by
  unfold quotientOf
  split
  · exact Nat.one_pos
  · exact Nat.pow_pos two_pos

theorem quotientOf_ratio (m : Nat) (e : Int) :
    ((quotientOf m e).1 : ℚ) / (quotientOf m e).2 = m * 2 ^ e := by
  unfold quotientOf
  split
  next h =>
    obtain ⟨n, rfl⟩ := Int.eq_ofNat_of_zero_le h
    simp
  next h =>
    have := @div_mul_pow_toNat m 1 2 (-e) (by omega)
    rw [Nat.one_mul] at this
    rw [Nat.pow_eq, this]
    simp

theorem nearestFloat_positive {num den : Nat} (hd : 0 < den)
    (hv : (2 : ℚ) ^ (-1022 : Int) ≤ num / den) : ¬nearestFloat num den ≤ 0 := by
  rcases nearestFloat_value hd hv with ⟨-, hvalue⟩ | ⟨m, e, hvalue, hm, -⟩
  · simp [le_zero_iff, hvalue, FloatValue.sign]
  · exact not_le_zero_of_finite hvalue hm

theorem nearestOfInt_nat (n : Nat) : nearestOfInt n 1 = nearestFloat n 1 := by
  rw [nearestOfInt, if_neg (by omega), Int.natAbs_natCast]

theorem nat_normal {n : Nat} (hn : 0 < n) : (2 : ℚ) ^ (-1022 : Int) ≤ n / (1 : Nat) := by
  have hone : (1 : ℚ) ≤ n := by exact_mod_cast hn
  rw [Nat.cast_one, div_one]
  exact le_trans (zpow_le_one_of_nonpos₀ one_le_two (by decide)) hone

theorem nearestOfInt_positive {n : Int} (hn : 0 < n) : ¬nearestOfInt n 1 ≤ 0 := by
  obtain ⟨k, rfl⟩ := Int.eq_ofNat_of_zero_le hn.le
  rw [nearestOfInt_nat]
  exact nearestFloat_positive one_pos (nat_normal (by omega))

/-- A decimal of at most six digits, from 0.0001 on. -/
structure SixDigits (n k : Nat) : Prop where
  few : n < 1000000
  large : 10 ^ k ≤ n * 10000

namespace SixDigits

variable {n k : Nat}

theorem pos (h : SixDigits n k) : 0 < n := by
  have := h.large
  have : 0 < 10 ^ k := by positivity
  omega

theorem places (h : SixDigits n k) : k < 10 := by
  have : 10 ^ k < 10 ^ 10 := by have := h.few; have := h.large; omega
  exact (Nat.pow_lt_pow_iff_right (by decide)).mp this

theorem bounds (h : SixDigits n k) :
    (10 : ℚ) ^ (-4 : Int) ≤ n / 10 ^ k ∧ (n / 10 ^ k : ℚ) < 10 ^ (6 : Int) := by
  have hpos : (0 : ℚ) < 10 ^ k := by positivity
  constructor
  · rw [le_div_iff₀ hpos]
    have : (10 ^ k : ℚ) ≤ n * 10000 := by exact_mod_cast h.large
    norm_num
    linarith
  · rw [div_lt_iff₀ hpos]
    have hn : (n : ℚ) < 1000000 := by exact_mod_cast h.few
    have : (1 : ℚ) ≤ 10 ^ k := one_le_pow₀ (by norm_num)
    norm_num
    linarith

theorem nearest (h : SixDigits n k) : nearestDecimal n (-k) = nearestFloat n (10 ^ k) := by
  have hlog : n.log2 < 20 := (Nat.log2_lt (Nat.ne_of_gt h.pos)).mpr (h.few.trans (by decide))
  have hk := h.places
  unfold nearestDecimal
  rw [if_neg (Nat.ne_of_gt h.pos), if_neg (by omega), if_neg (by omega)]
  split
  next hzero =>
    obtain rfl : k = 0 := by omega
    simp
  next => rw [Int.neg_neg, Int.toNat_natCast, Nat.pow_eq]

theorem nearest_value (h : SixDigits n k) :
    ∃ m e, floatValue (nearestDecimal n (-k)) = .finite false m e ∧ 0 < m ∧
      |(m : ℚ) * 2 ^ e - n / 10 ^ k| ≤ n / 10 ^ k * 2 ^ (-53 : Int) := by
  obtain ⟨hlow, hhigh⟩ := h.bounds
  have hcast : ((10 ^ k : Nat) : ℚ) = 10 ^ k := by push_cast; rfl
  have hnormal : (2 : ℚ) ^ (-1022 : Int) ≤ n / (10 ^ k : Nat) := by
    rw [hcast]
    refine le_trans ?_ hlow
    calc (2 : ℚ) ^ (-1022 : Int) ≤ 2 ^ (-14 : Int) := zpow_le_zpow_right₀ one_le_two (by decide)
      _ ≤ 10 ^ (-4 : Int) := by norm_num
  rw [h.nearest]
  rcases nearestFloat_value (by positivity) hnormal with ⟨hbig, -⟩ | ⟨m, e, hvalue, hm, hnear⟩
  · have : (2 : ℚ) ^ 20 ≤ 2 ^ 1000 := pow_le_pow_right₀ one_le_two (by decide)
    rw [hcast] at hbig
    exact absurd (this.trans hbig) (not_le.mpr (hhigh.trans (by norm_num)))
  · rw [hcast] at hnear
    exact ⟨m, e, hvalue, hm, hnear⟩

theorem nearest_congr {n' k' : Nat} (h : SixDigits n k) (h' : SixDigits n' k')
    (heq : (n / 10 ^ k : ℚ) = n' / 10 ^ k') : nearestDecimal n (-k) = nearestDecimal n' (-k') := by
  rw [h.nearest, h'.nearest]
  apply nearestFloat_congr h.pos (by positivity) h'.pos (by positivity)
  exact_mod_cast heq

end SixDigits

end GlyphAlgebra
