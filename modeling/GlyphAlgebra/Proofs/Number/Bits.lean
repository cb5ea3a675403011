import GlyphAlgebra.Number.Exact
import Mathlib

namespace GlyphAlgebra

open Float.Model Float.Model.UnpackedFloat

section fields

variable (b : BitVec Format.binary64.numBits)

theorem unpackMantissa_toNat : (unpackMantissa b).toNat = b.toNat % 2 ^ 52 := by
  rw [unpackMantissa_def, BitVec.extractLsb'_toNat, Nat.shiftRight_zero]

theorem unpackExponent_toNat : (unpackExponent b).toNat = b.toNat / 2 ^ 52 % 2 ^ 11 := by
  rw [unpackExponent_def, BitVec.extractLsb'_toNat, Nat.shiftRight_eq_div_pow]

theorem unpackSign_toNat : (unpackSign b).toNat = b.toNat / 2 ^ 63 % 2 := by
  rw [unpackSign_def, BitVec.extractLsb'_toNat, Nat.shiftRight_eq_div_pow]
  rfl

def signOf (negative : Bool) : Sign :=
  if negative then .negative else .positive

theorem unpackSign_signOf :
    Sign.ofBitVec (unpackSign b) = signOf (decide (Nat.pow 2 63 ≤ b.toNat)) := by
  have hs := unpackSign_toNat b
  have hb : b.toNat < 2 ^ 64 := b.isLt
  by_cases hn : 2 ^ 63 ≤ b.toNat
  · have h : unpackSign b = 1#1 := BitVec.eq_of_toNat_eq (by rw [hs, BitVec.toNat_ofNat]; omega)
    rw [h, decide_eq_true (by exact hn)]
    rfl
  · have h : unpackSign b = 0#1 := BitVec.eq_of_toNat_eq (by rw [hs, BitVec.toNat_ofNat]; omega)
    rw [h, decide_eq_false (by exact hn)]
    rfl

theorem implicit_bit (m : BitVec 52) : (1#1 ++ m).toNat = 2 ^ 52 + m.toNat := by
  rw [BitVec.toNat_append, ← Nat.shiftLeft_add_eq_or_of_lt m.isLt]
  rfl

end fields

/-- Bits up to those of infinity are kept; beyond them all NaNs are one. -/
theorem toBits_ofBits {b : UInt64} (h : b.toNat ≤ 2047 * 2 ^ 52) : (Float.ofBits b).toBits = b := by
  apply UInt64.toBitVec_inj.mp
  change pack Format.binary64 (unpack Format.binary64 b.toBitVec) = b.toBitVec
  rw [pack_unpack, if_neg]
  simp only [isNaNBits, decide_eq_true_eq, not_and, not_not]
  intro he
  have he := congrArg BitVec.toNat he
  rw [unpackExponent_toNat] at he
  apply BitVec.eq_of_toNat_eq
  rw [unpackMantissa_toNat]
  change b.toNat / 2 ^ 52 % 2 ^ 11 = 2047 at he
  change b.toNat % 2 ^ 52 = 0
  omega

/-- What the arithmetic of floats takes a value for. -/
def FloatValue.unpacked : FloatValue → UnpackedFloat
  | nan => .notANumber
  | infinite negative => .infinity (signOf negative)
  | finite negative mantissa exponent =>
    if h : mantissa = 0 then .zero (signOf negative)
    else .finite (signOf negative) mantissa exponent (Nat.pos_of_ne_zero h)

theorem unpack_floatValue (x : Float) : x.toModel.unpack = (floatValue x).unpacked := by
  change UnpackedFloat.unpack Format.binary64 x.toModel.toBits.toBitVec = _
  unfold UnpackedFloat.unpack floatValue
  rw [show x.toBits.toNat = x.toModel.toBits.toBitVec.toNat from rfl]
  generalize x.toModel.toBits.toBitVec = b
  simp only [unpackSign_signOf, ← BitVec.toNat_inj, unpackExponent_toNat b, unpackMantissa_toNat b,
    implicit_bit, show (-1#11).toNat = 2047 from rfl, BitVec.toNat_ofNat, Nat.zero_mod, Nat.pow_eq]
  by_cases hinf : b.toNat / 2 ^ 52 % 2 ^ 11 = 2047
  · rw [if_pos hinf, if_pos hinf]
    split <;> rfl
  rw [if_neg hinf, if_neg hinf]
  by_cases hsub : b.toNat / 2 ^ 52 % 2 ^ 11 = 0
  · rw [if_pos hsub, if_pos hsub]
    simp only [hsub, FloatValue.unpacked]
    split <;> rfl
  · rw [if_neg hsub, if_neg hsub]
    dsimp only [FloatValue.unpacked]
    rw [dif_neg (by omega)]
    congr 1

/-- How a float stands to zero. -/
def FloatValue.sign : FloatValue → Option Ordering
  | nan => none
  | infinite negative => some (if negative then .lt else .gt)
  | finite negative mantissa _ =>
    some (if mantissa = 0 then .eq else if negative then .lt else .gt)

theorem least_exponent {x : Float} {negative : Bool} {m : Nat} {e : Int}
    (h : floatValue x = .finite negative m e) : -1074 ≤ e := by
  unfold floatValue at h
  dsimp only at h
  split at h
  next => split at h <;> exact FloatValue.noConfusion h
  next =>
    split at h <;> injection h <;> omega

theorem floatValue_zero : floatValue 0 = .finite false 0 (-1074) := by decide

theorem FloatValue.compare_zero (v : FloatValue) :
    v.unpacked.compare (.zero .positive) = v.sign ∧
      (UnpackedFloat.zero .positive).compare v.unpacked = v.sign.map .swap := by
  cases v with
  | nan => exact ⟨rfl, rfl⟩
  | infinite negative => cases negative <;> exact ⟨rfl, rfl⟩
  | finite negative mantissa exponent =>
    by_cases h : mantissa = 0 <;> cases negative <;>
      simp [h, unpacked, sign, UnpackedFloat.compare, signOf]

theorem unpack_zero : (0 : Float).toModel.unpack = .zero .positive := by
  rw [unpack_floatValue, floatValue_zero]
  rfl

theorem le_zero_iff (x : Float) :
    x ≤ 0 ↔ (floatValue x).sign = some .lt ∨ (floatValue x).sign = some .eq := by
  change decide (x.toModel ≤ (0 : Float).toModel) = true ↔ _
  rw [decide_eq_true_iff]
  change Option.any (·.isLE) (x.toModel.unpack.compare (0 : Float).toModel.unpack) = true ↔ _
  rw [unpack_floatValue, unpack_zero, (floatValue x).compare_zero.1]
  generalize (floatValue x).sign = o
  revert o
  decide

theorem zero_lt_iff (x : Float) : 0 < x ↔ (floatValue x).sign = some .gt := by
  change decide ((0 : Float).toModel < x.toModel) = true ↔ _
  rw [decide_eq_true_iff]
  change ((0 : Float).toModel.unpack.compare x.toModel.unpack == some .lt) = true ↔ _
  rw [unpack_floatValue x, unpack_zero, (floatValue x).compare_zero.2]
  generalize (floatValue x).sign = o
  revert o
  decide

theorem not_le_zero_of_zero_lt {x : Float} (h : 0 < x) : ¬x ≤ 0 := by
  rw [zero_lt_iff] at h
  simp [le_zero_iff, h]

/-- What is not at most zero is NaN, infinite or positive. -/
theorem not_le_zero_cases {x : Float} (h : ¬x ≤ 0) :
    floatValue x = .nan ∨ floatValue x = .infinite false ∨
      ∃ m e, floatValue x = .finite false m e ∧ 0 < m := by
  rw [le_zero_iff] at h
  cases hv : floatValue x with
  | nan => exact .inl rfl
  | infinite negative =>
    cases negative with
    | false => exact .inr (.inl rfl)
    | true => simp [hv, FloatValue.sign] at h
  | finite negative mantissa exponent =>
    by_cases hm : mantissa = 0
    · simp [hv, FloatValue.sign, hm] at h
    · cases negative with
      | false => exact .inr (.inr ⟨_, _, rfl, Nat.pos_of_ne_zero hm⟩)
      | true => simp [hv, FloatValue.sign, hm] at h

theorem not_le_zero_of_finite {x : Float} {m : Nat} {e : Int}
    (h : floatValue x = .finite false m e) (hm : 0 < m) : ¬x ≤ 0 := by
  simp [le_zero_iff, h, FloatValue.sign, Nat.ne_of_gt hm]

/-- Bits of a positive number or of infinity, taken apart. -/
theorem floatValue_ofBits {bits : Nat} (h : bits ≤ 2047 * 2 ^ 52) :
    floatValue (Float.ofBits (UInt64.ofNat bits)) =
      if bits = 2047 * 2 ^ 52 then .infinite false
      else if bits < 2 ^ 52 then .finite false bits (-1074)
      else .finite false (2 ^ 52 + bits % 2 ^ 52) ((bits / 2 ^ 52 : Nat) - 1075) := by
  have hb : (UInt64.ofNat bits).toNat = bits :=
    UInt64.toNat_ofNat_of_lt' (Nat.lt_of_le_of_lt h (by decide))
  have hpositive : decide (Nat.pow 2 63 ≤ bits) = false := by
    apply decide_eq_false
    simp only [Nat.pow_eq]
    omega
  unfold floatValue
  rw [toBits_ofBits (by rwa [hb]), hb]
  simp only [hpositive, Nat.pow_eq, Nat.mod_eq_of_lt (show bits / 2 ^ 52 < 2 ^ 11 by omega)]
  by_cases hinf : bits = 2047 * 2 ^ 52
  · rw [if_pos (by omega), if_pos (by omega), if_pos hinf]
  rw [if_neg (by omega), if_neg hinf]
  by_cases hsub : bits < 2 ^ 52
  · rw [if_pos (by omega), if_pos hsub, Nat.mod_eq_of_lt hsub]
  · rw [if_neg (by omega), if_neg hsub]

end GlyphAlgebra
