import GlyphAlgebra.Proofs.Font.Format
import GlyphAlgebra.Proofs.Number.Digits

namespace GlyphAlgebra

structure PlainDigits (whole fraction : List Char) : Prop where
  shown : whole ≠ []
  digit : ∀ c ∈ whole ++ fraction, c.isDigit

theorem PlainDigits.decimal {whole fraction : List Char} (h : PlainDigits whole fraction) :
    ∀ c ∈ whole ++ fraction, isDecimalDigit c = true :=
  fun c hc => isDecimalDigit_of_isDigit (h.digit c hc)

/-- A text that names something, on one line; one between two characters that are not blank and
without a line break is of this kind. -/
structure FamilyText (family : String) : Prop where
  shown : ∃ c ∈ family.toList, isBlank c = false
  line : '\n' ∉ family.toList

section specs

variable {whole fraction rest : List Char} {family : String}

theorem splitFontSpec_plainText (h : PlainDigits whole fraction) (hfamily : FamilyText family) :
    splitFontSpec (plainText whole fraction ++ 'p' :: 'x' :: ' ' :: family.toList) =
      some (whole, fraction, strip isBlank family.toList) := by
  have hspace : ∀ c ∈ [' '], isBlank c = true := by
    intro c hc
    rw [List.mem_singleton.mp hc]
    decide
  have hline : '\n' ∉ strip isBlank family.toList := fun h => hfamily.line (mem_of_mem_strip h)
  obtain ⟨c, hc, hcblank⟩ := hfamily.shown
  exact (@specText_strip whole fraction [] [' '] _ (by simp) (by simp) hspace h.shown h.decimal
    (strip_ne_nil hc hcblank) hline).split

theorem splitFontSpec_exponent (h : PlainDigits whole fraction) :
    splitFontSpec (plainText whole fraction ++ 'e' :: rest) = none := by
  unfold splitFontSpec
  rw [dropWhile_plainText h.shown h.decimal, splitSize_plainText h.decimal (by decide) (by decide)]
  obtain ⟨d, ds, rfl⟩ := List.exists_cons_of_ne_nil h.shown
  rfl

theorem splitFontSpec_word {c : Char} (hc : isBlank c = false) (hdigit : isDecimalDigit c = false) :
    splitFontSpec (c :: rest) = none := by
  have hwhole : (splitSize (c :: rest)).1 = [] := by
    have htake : (c :: rest).takeWhile isDecimalDigit = [] :=
      List.takeWhile_cons_of_neg (by rw [hdigit]; nofun)
    unfold splitSize
    dsimp only
    rw [htake]
    split
    next => split <;> rfl
    next => rfl
  unfold splitFontSpec
  rw [List.dropWhile_cons_of_neg (by rw [hc]; nofun)]
  generalize splitSize (c :: rest) = parts at hwhole
  obtain ⟨whole, fraction, rest⟩ := parts
  cases hwhole
  rfl

end specs

/-- How a size is laid out: without an exponent from 0.0001 on and below 1000000. -/
def sizeLayout : DecimalLayout := ⟨-4, 6, false⟩

section writing

variable {d : DecimalDigits}

theorem DecimalDigits.Significant.value_lt (h : d.Significant) {k : Nat} (hk : k ≤ 6)
    (hlength : d.digits.length ≤ k) :
    digitsValue d.digits * 10 ^ (k - d.digits.length) < 1000000 := by
  calc digitsValue d.digits * 10 ^ (k - d.digits.length)
      < 10 ^ d.digits.length * 10 ^ (k - d.digits.length) := by
        gcongr
        exact digitsValue_lt h.digit
    _ = 10 ^ k := by rw [← pow_add, Nat.add_sub_of_le hlength]
    _ ≤ 10 ^ 6 := Nat.pow_le_pow_right (by decide) hk

/-- The text is a plain number of at most six digits with the value of the digits. -/
def ShowsPlain (d : DecimalDigits) (text : List Char) : Prop :=
  ∃ whole fraction, text = plainText whole fraction ∧ PlainDigits whole fraction ∧
    digitsValue (whole ++ fraction) < 1000000 ∧
    (digitsValue (whole ++ fraction) : ℚ) / 10 ^ fraction.length = d.value

theorem isDigit_of_mem_zeros {k : Nat} {c : Char} (hc : c ∈ List.replicate k '0') : c.isDigit := by
  rw [List.eq_of_mem_replicate hc]
  rfl

theorem value_of_places (d : DecimalDigits) {k : Nat} (hk : d.point - d.digits.length = -k) :
    (digitsValue d.digits : ℚ) / 10 ^ k = d.value := by
  rw [DecimalDigits.value, hk, div_eq_mul_inv, zpow_neg, zpow_natCast]

/-- Below one there are zeros between the point and the digits. -/
theorem shows_below_one (h : d.Significant) {k : Nat} (hk : -d.point = k) :
    ShowsPlain d ('0' :: '.' :: List.replicate k '0' ++ d.digits) := by
  have hvalue : digitsValue (['0'] ++ (List.replicate k '0' ++ d.digits)) =
      digitsValue d.digits := by
    rw [digitsValue_append, digitsValue_append, digitsValue_zeros]
    simp [digitsValue, digitValue?_of_isDigit]
  refine ⟨['0'], List.replicate k '0' ++ d.digits, ?_, ⟨List.cons_ne_nil _ _, ?_⟩, ?_, ?_⟩
  · rw [plainText, if_neg (by simp [h.shown])]
    rfl
  · intro c hc
    rw [List.mem_append, List.mem_append] at hc
    rcases hc with hc | hc | hc
    · rw [List.mem_singleton.mp hc]
      rfl
    · exact isDigit_of_mem_zeros hc
    · exact h.digit c hc
  · rw [hvalue]
    simpa using h.value_lt h.few (Nat.le_refl _)
  · rw [hvalue, List.length_append, List.length_replicate]
    apply value_of_places
    push_cast
    omega

/-- A whole number may have zeros between its digits and the point, which is left out. -/
theorem shows_whole (h : d.Significant) {k : Nat} (hk : d.point = k) (hmost : k ≤ 6)
    (hwhole : d.digits.length ≤ k) :
    ShowsPlain d (d.digits ++ List.replicate (k - d.digits.length) '0') := by
  have hvalue : digitsValue (d.digits ++ List.replicate (k - d.digits.length) '0') =
      digitsValue d.digits * 10 ^ (k - d.digits.length) := by
    rw [digitsValue_append, List.length_replicate, digitsValue_zeros, Nat.add_zero]
  refine ⟨_, [], rfl, ⟨List.append_ne_nil_of_left_ne_nil h.shown _, ?_⟩, ?_, ?_⟩
  · rw [List.append_nil]
    exact fun c hc => (List.mem_append.mp hc).elim (h.digit c) isDigit_of_mem_zeros
  · rw [List.append_nil, hvalue]
    exact h.value_lt hmost hwhole
  · rw [List.append_nil, hvalue, List.length_nil, pow_zero, div_one, DecimalDigits.value, hk,
      ← Nat.cast_sub hwhole, zpow_natCast]
    push_cast
    rfl

theorem shows_among (h : d.Significant) {k : Nat} (hk : d.point = k) (hpositive : 0 < k)
    (hfraction : k < d.digits.length) :
    ShowsPlain d (d.digits.take k ++ '.' :: d.digits.drop k) := by
  have hdrop : d.digits.drop k ≠ [] := by
    rw [Ne, List.drop_eq_nil_iff]
    omega
  refine ⟨d.digits.take k, d.digits.drop k, (if_neg hdrop).symm, ⟨?_, ?_⟩, ?_, ?_⟩
  · rw [Ne, List.take_eq_nil_iff, not_or]
    exact ⟨Nat.ne_of_gt hpositive, h.shown⟩
  · rw [List.take_append_drop]
    exact h.digit
  · rw [List.take_append_drop]
    simpa using h.value_lt h.few (Nat.le_refl _)
  · rw [List.take_append_drop, List.length_drop]
    apply value_of_places
    omega

theorem write_plain (h : d.Significant) (hleast : -3 ≤ d.point) (hmost : d.point ≤ 6) :
    ShowsPlain d (sizeLayout.write d) := by
  unfold DecimalLayout.write sizeLayout
  dsimp only
  rw [if_pos (by omega)]
  by_cases hbelow : d.point ≤ 0
  · obtain ⟨k, hk⟩ := Int.eq_ofNat_of_zero_le (show 0 ≤ -d.point by omega)
    rw [if_pos hbelow, hk, Int.toNat_natCast]
    exact shows_below_one h hk
  obtain ⟨k, hk⟩ := Int.eq_ofNat_of_zero_le (show 0 ≤ d.point by omega)
  rw [if_neg hbelow, hk, Int.toNat_natCast]
  by_cases hwhole : d.digits.length ≤ k
  · rw [List.drop_eq_nil_of_le hwhole, List.take_of_length_le hwhole, if_pos rfl, if_neg (by nofun),
      List.append_nil]
    exact shows_whole h hk (by omega) hwhole
  · have htake : (d.digits.take k).length = k := by
      rw [List.length_take]
      omega
    have hdrop : d.digits.drop k ≠ [] := by
      rw [Ne, List.drop_eq_nil_iff]
      omega
    rw [htake, Nat.sub_self, List.replicate_zero, List.append_nil, if_neg hdrop]
    exact shows_among h hk (by omega) (by omega)

theorem write_exponent (h : d.Significant) (hout : ¬(-3 ≤ d.point ∧ d.point ≤ 6)) :
    ∃ whole fraction rest, sizeLayout.write d = plainText whole fraction ++ 'e' :: rest ∧
      PlainDigits whole fraction := by
  obtain ⟨c, cs, hcs⟩ := List.exists_cons_of_ne_nil h.shown
  have hdigit := h.digit
  unfold DecimalLayout.write sizeLayout
  dsimp only
  rw [if_neg (by omega)]
  rw [hcs] at hdigit ⊢
  cases cs with
  | nil => exact ⟨[c], [], _, rfl, List.cons_ne_nil _ _, hdigit⟩
  | cons e es => exact ⟨[c], e :: es, _, rfl, List.cons_ne_nil _ _, hdigit⟩

end writing

theorem fontSpecText_toList (size : Float) (family : String) :
    (fontSpecText size family).toList =
      (generalText size).toList ++ 'p' :: 'x' :: ' ' :: family.toList := by
  simp [fontSpecText, toString]

theorem generalText_finite {x : Float} {m : Nat} {e : Int} (h : floatValue x = .finite false m e)
    (hm : 0 < m) :
    (generalText x).toList =
      sizeLayout.write (roundedDigits (quotientOf m e).1 (quotientOf m e).2 6) := by
  unfold generalText writeFloat
  rw [h]
  dsimp only
  rw [if_neg (Nat.ne_of_gt hm)]
  simp [sizeLayout]

end GlyphAlgebra
