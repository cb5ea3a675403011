import GlyphAlgebra.Proofs.CommandLine.Options
import GlyphAlgebra.Proofs.Font.Spec

namespace GlyphAlgebra

/-- The float nearest to a decimal of at most six digits, from 0.0001 on. -/
def ShortDecimal (x : Float) : Prop :=
  ∃ n k : Nat, SixDigits n k ∧ nearestDecimal n (-k) = x

/-- The text is a font spec, and of this size. -/
def FontSpec.HasSize (text : String) (size : Float) : Prop :=
  ∃ spec, FontSpec.ofText text = .ok spec ∧ spec.size = size

theorem ofText_malformed {text : String} (h : splitFontSpec text.toList = none) :
    FontSpec.ofText text = .error (.malformed text) := by
  rw [FontSpec.ofText, h]

theorem not_hasSize {text : String} {size : Float} (h : splitFontSpec text.toList = none) :
    ¬FontSpec.HasSize text size := by
  rintro ⟨spec, hspec, -⟩
  rw [ofText_malformed h] at hspec
  exact nomatch hspec

theorem hasSize_split {text : String} {whole fraction families : List Char} {size : Float}
    (h : splitFontSpec text.toList = some (whole, fraction, families)) (hsize : ¬size ≤ 0) :
    FontSpec.HasSize text size ↔
      nearestDecimal (digitsValue (whole ++ fraction)) (-fraction.length) = size := by
  unfold FontSpec.HasSize FontSpec.ofText
  rw [h]
  dsimp only
  constructor
  · rintro ⟨spec, hspec, hread⟩
    split at hspec
    next => exact nomatch hspec
    next =>
      cases hspec
      exact hread
  · rintro rfl
    rw [if_neg hsize]
    exact ⟨_, rfl, rfl⟩

section finite

variable {size : Float} {m : Nat} {e : Int} {family : String}

/-- No positive float is too small for its digits to be found. -/
theorem finite_large (h : floatValue size = .finite false m e) (hm : 0 < m) :
    (10 : ℚ) ^ (-(400 : Nat) : Int) ≤ (quotientOf m e).1 / (quotientOf m e).2 := by
  rw [quotientOf_ratio]
  have hone : (1 : ℚ) ≤ m := by exact_mod_cast hm
  have hpos : (0 : ℚ) < 2 ^ e := by positivity
  calc (10 : ℚ) ^ (-(400 : Nat) : Int) ≤ 2 ^ (-1200 : Int) := ten_pow_least
    _ ≤ 2 ^ e := zpow_le_zpow_right₀ one_le_two (by have := least_exponent h; omega)
    _ ≤ m * 2 ^ e := le_mul_of_one_le_left hpos.le hone

/-- The digits of a size in its font spec. -/
def sizeDigits (m : Nat) (e : Int) : DecimalDigits :=
  roundedDigits (quotientOf m e).1 (quotientOf m e).2 6

theorem sizeDigits_significant (h : floatValue size = .finite false m e) (hm : 0 < m) :
    (sizeDigits m e).Significant :=
  (roundedDigits_significant (quotientOf_pos m e) (finite_large h hm)).1

theorem sizeDigits_value {n k : Nat} (h : floatValue size = .finite false m e) (hm : 0 < m)
    (hshort : SixDigits n k) (hsize : nearestDecimal n (-k) = size) :
    (sizeDigits m e).value = n / 10 ^ k := by
  obtain ⟨m', e', hvalue, -, hnear⟩ := hshort.nearest_value
  rw [hsize, h] at hvalue
  injection hvalue with _ hm' he'
  subst hm' he'
  apply roundedDigits_value (quotientOf_pos m e) (finite_large h hm) hshort.few
  rwa [quotientOf_ratio]

theorem sixDigits_of_value {d : DecimalDigits} {n k : Nat} (h : d.Significant)
    (hleast : -3 ≤ d.point) (hn : n < 1000000) (hvalue : (n / 10 ^ k : ℚ) = d.value) :
    SixDigits n k := by
  refine ⟨hn, ?_⟩
  have hlow : (10 : ℚ) ^ (-4 : Int) ≤ n / 10 ^ k := by
    rw [hvalue]
    exact le_trans (zpow_le_zpow_right₀ (by norm_num) (by omega)) h.leadsAt.low
  rw [le_div_iff₀ (by positivity)] at hlow
  norm_num at hlow
  have hlow : (10 : ℚ) ^ k ≤ n * 10000 := by linarith
  exact_mod_cast hlow

/-- A short decimal is laid out without an exponent. -/
theorem point_of_short {n k : Nat} (h : floatValue size = .finite false m e) (hm : 0 < m)
    (hshort : SixDigits n k) (hsize : nearestDecimal n (-k) = size) :
    -3 ≤ (sizeDigits m e).point ∧ (sizeDigits m e).point ≤ 6 := by
  have hten : (1 : ℚ) < 10 := by norm_num
  obtain ⟨hlow, hhigh⟩ := (sizeDigits_significant h hm).leadsAt
  obtain ⟨hleast, hmost⟩ := hshort.bounds
  rw [← sizeDigits_value h hm hshort hsize] at hleast hmost
  have := (zpow_lt_zpow_iff_right₀ hten).mp (hleast.trans_lt hhigh)
  have := (zpow_lt_zpow_iff_right₀ hten).mp (hlow.trans_lt hmost)
  omega

/-- The spec of a positive size keeps it if it is the float of a short decimal, and only then. -/
theorem spec_keeps_iff (h : floatValue size = .finite false m e) (hm : 0 < m)
    (hfamily : FamilyText family) :
    FontSpec.HasSize (fontSpecText size family) size ↔ ShortDecimal size := by
  have hdigits := sizeDigits_significant h hm
  have htext : (fontSpecText size family).toList =
      sizeLayout.write (sizeDigits m e) ++ 'p' :: 'x' :: ' ' :: family.toList := by
    rw [fontSpecText_toList, generalText_finite h hm]
    rfl
  by_cases hrange : -3 ≤ (sizeDigits m e).point ∧ (sizeDigits m e).point ≤ 6
  · obtain ⟨whole, fraction, hwrite, hplain, hfew, hvalue⟩ :=
      write_plain hdigits hrange.1 hrange.2
    have hshort := sixDigits_of_value hdigits hrange.1 hfew hvalue
    have hread : splitFontSpec (fontSpecText size family).toList =
        some (whole, fraction, strip isBlank family.toList) := by
      rw [htext, hwrite]
      exact splitFontSpec_plainText hplain hfamily
    rw [hasSize_split hread (not_le_zero_of_finite h hm)]
    constructor
    · exact fun hsize => ⟨_, _, hshort, hsize⟩
    · rintro ⟨n, k, hnk, hsize⟩
      rw [← hsize]
      apply hshort.nearest_congr hnk
      rw [hvalue, sizeDigits_value h hm hnk hsize]
  · obtain ⟨whole, fraction, rest, hwrite, hplain⟩ := write_exponent hdigits hrange
    have hread : splitFontSpec (fontSpecText size family).toList = none := by
      rw [htext, hwrite, List.append_assoc]
      exact splitFontSpec_exponent hplain
    constructor
    · exact fun hkept => absurd hkept (not_hasSize hread)
    · rintro ⟨n, k, hnk, hsize⟩
      exact absurd (point_of_short h hm hnk hsize) hrange

end finite

theorem ShortDecimal.finite {size : Float} (h : ShortDecimal size) :
    ∃ m e, floatValue size = .finite false m e := by
  obtain ⟨n, k, hnk, rfl⟩ := h
  obtain ⟨m, e, hvalue, -⟩ := hnk.nearest_value
  exact ⟨m, e, hvalue⟩

theorem make_ok {size : Float} {family : String} {factory : Except StrategyError Strategy}
    (h : ¬size ≤ 0) : Renderer.make size family factory = .ok ⟨size, family, factory⟩ :=
  if_neg h

/-- Of the sizes that a renderer takes, a font spec keeps those of short decimals. -/
theorem hasSize_iff {size : Float} {family : String} (hsize : ¬size ≤ 0)
    (hfamily : FamilyText family) :
    FontSpec.HasSize (fontSpecText size family) size ↔ ShortDecimal size := by
  -- what has no digits is written as a word, which is no size
  have hword {c : Char} {cs : List Char} (hvalue : ∀ m e, floatValue size ≠ .finite false m e)
      (htext : (generalText size).toList = c :: cs) (hc : isBlank c = false)
      (hdigit : isDecimalDigit c = false) :
      FontSpec.HasSize (fontSpecText size family) size ↔ ShortDecimal size := by
    have hread : splitFontSpec (fontSpecText size family).toList = none := by
      rw [fontSpecText_toList, htext, List.cons_append, splitFontSpec_word hc hdigit]
    constructor
    · exact fun hkept => absurd hkept (not_hasSize hread)
    · intro hshort
      obtain ⟨m, e, hfinite⟩ := hshort.finite
      exact absurd hfinite (hvalue m e)
  rcases not_le_zero_cases hsize with hvalue | hvalue | ⟨m, e, hvalue, hm⟩
  · have htext : generalText size = "nan" := by rw [generalText, writeFloat, hvalue]
    exact hword (by simp [hvalue]) (congrArg String.toList htext) (by decide) (by decide)
  · have htext : generalText size = "inf" := by rw [generalText, writeFloat, hvalue]; rfl
    exact hword (by simp [hvalue]) (congrArg String.toList htext) (by decide) (by decide)
  · exact spec_keeps_iff hvalue hm hfamily

theorem shortDecimal_int_iff {n : Nat} (hn : 0 < n) :
    ShortDecimal (nearestOfInt n 1) ↔ n < 1000000 := by
  rw [nearestOfInt_nat]
  constructor
  · rintro ⟨n', k, hnk, hsame⟩
    obtain ⟨m, e, hvalue, -, hshort⟩ := hnk.nearest_value
    rw [hsame] at hvalue
    rcases nearestFloat_value one_pos (nat_normal hn) with ⟨-, hinf⟩ | ⟨m', e', hfin, -, hnear⟩
    · rw [hinf] at hvalue
      exact nomatch hvalue
    rw [hfin] at hvalue
    injection hvalue with _ hm he
    subst hm he
    rw [Nat.cast_one, div_one] at hnear
    have hn' : (n' : ℚ) ≤ 999999 := by exact_mod_cast Nat.le_pred_of_lt hnk.few
    have hquotient : (n' / 10 ^ k : ℚ) ≤ n' :=
      div_le_self (by positivity) (one_le_pow₀ (by norm_num))
    have hsmall : (2 : ℚ) ^ (-53 : Int) = 1 / 9007199254740992 := by norm_num
    rw [hsmall] at hnear hshort
    have hnear := abs_le.mp hnear
    have hshort := abs_le.mp hshort
    have hlt : (n : ℚ) < (1000000 : Nat) := by
      push_cast
      linarith
    exact_mod_cast hlt
  · intro hlt
    have hnk : SixDigits n 0 := ⟨hlt, by omega⟩
    exact ⟨n, 0, hnk, hnk.nearest⟩

/-- The font spec of a renderer is read with its size exactly if the size is the float of a short
decimal, an integer exactly if it is below 1000000; so it is with the sizes of the command line. -/
theorem short_sizes_survive {family : String} (hfamily : FamilyText family)
    (factory : Except StrategyError Strategy) :
    (∀ size r, Renderer.make size family factory = .ok r →
      (FontSpec.HasSize r.fontSpec size ↔ ShortDecimal size)) ∧
    (∀ n : Nat, 0 < n → ∃ r, Renderer.make (nearestOfInt n 1) family factory = .ok r ∧
      (FontSpec.HasSize r.fontSpec (nearestOfInt n 1) ↔ n < 1000000)) ∧
    (∀ text size, readSize text = .ok size → ∃ r, Renderer.make size family factory = .ok r ∧
      (FontSpec.HasSize r.fontSpec size ↔ ShortDecimal size)) := by
  refine ⟨fun size r hr => ?_, fun n hn => ?_, fun text size htext => ?_⟩
  · unfold Renderer.make at hr
    split at hr
    next => exact nomatch hr
    next hsize =>
      cases hr
      exact hasSize_iff hsize hfamily
  · have hsize : ¬nearestOfInt n 1 ≤ 0 := nearestOfInt_positive (by omega)
    exact ⟨_, make_ok hsize, (hasSize_iff hsize hfamily).trans (shortDecimal_int_iff hn)⟩
  · have hsize := not_le_zero_of_zero_lt (readSize_positive htext)
    exact ⟨_, make_ok hsize, hasSize_iff hsize hfamily⟩

theorem familyText_serif : FamilyText "serif" :=
  ⟨⟨'s', by decide, by decide⟩, by decide⟩

theorem short_sizes_survive_serif :
    FamilyText "serif" ∧
      (∃ r, Renderer.make (nearestOfInt 25 2) "serif" (.ok (.start defaultScheme)) = .ok r ∧
        FontSpec.HasSize r.fontSpec (nearestOfInt 25 2)) ∧
      (∃ r, Renderer.make (nearestOfInt 300 1) "serif" (.ok (.start defaultScheme)) = .ok r ∧
        FontSpec.HasSize r.fontSpec (nearestOfInt 300 1)) ∧
      readSize "12.5" = .ok (nearestOfInt 25 2) := by
  obtain ⟨hmade, hints, hread⟩ := short_sizes_survive familyText_serif (.ok (.start defaultScheme))
  have hshort : ShortDecimal (nearestOfInt 25 2) :=
    ⟨125, 1, ⟨by decide, by decide⟩, by decide +kernel⟩
  have htext : readSize "12.5" = .ok (nearestOfInt 25 2) := by decide +kernel
  obtain ⟨r, hr, -⟩ := hread _ _ htext
  obtain ⟨r', hr', hkept⟩ := hints 300 (by decide)
  exact ⟨familyText_serif, ⟨r, hr, (hmade _ _ hr).mpr hshort⟩, ⟨r', hr', hkept.mpr (by decide)⟩,
    htext⟩

/-- The size 1000000 is written with an exponent, which no font spec has. -/
theorem million_malformed :
    FamilyText "serif" ∧ readSize "1000000" = .ok (nearestOfInt 1000000 1) ∧
      ∃ r, Renderer.make (nearestOfInt 1000000 1) "serif" (.ok (.start defaultScheme)) = .ok r ∧
        r.fontSpec = "1e+06px serif" ∧
        FontSpec.ofText r.fontSpec = .error (.malformed "1e+06px serif") ∧
        ¬FontSpec.HasSize r.fontSpec (nearestOfInt 1000000 1) := by
  have hspec : fontSpecText (nearestOfInt 1000000 1) "serif" = "1e+06px serif" := by decide +kernel
  have hread : FontSpec.ofText "1e+06px serif" = .error (.malformed "1e+06px serif") := by
    decide +kernel
  have hsize : readSize "1000000" = .ok (nearestOfInt 1000000 1) := by decide +kernel
  refine ⟨familyText_serif, hsize, _, rfl, hspec, ?_, ?_⟩
  · rw [Renderer.fontSpec, hspec, hread]
  · intro hkept
    rw [Renderer.fontSpec, hspec] at hkept
    exact not_hasSize (by decide +kernel) hkept

end GlyphAlgebra
