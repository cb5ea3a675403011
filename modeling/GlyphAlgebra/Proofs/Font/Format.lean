import GlyphAlgebra.Font.Spec
import GlyphAlgebra.Proofs.Text.Strip

namespace GlyphAlgebra

/-- A number written with digits before its point, and perhaps behind. -/
def plainText (whole fraction : List Char) : List Char :=
  if fraction = [] then whole else whole ++ '.' :: fraction

/-- A font spec: a number and the unit of pixels, and behind a gap the families, which make up one
line and have no blank at either end. Blanks may stand around it all. -/
structure SpecText (cs whole fraction families : List Char) : Prop where
  laidOut : ∃ before gap after, cs = before ++ (plainText whole fraction ++
    'p' :: 'x' :: (gap ++ (families ++ after))) ∧ gap ≠ [] ∧
    ∀ c ∈ before ++ gap ++ after, isBlank c = true
  shown : whole ≠ []
  digit : ∀ c ∈ whole ++ fraction, isDecimalDigit c = true
  named : families ≠ []
  flush : Flush isBlank families
  line : '\n' ∉ families

theorem isDecimalDigit_cases {c : Char} (h : isDecimalDigit c = true) :
    ∃ first ∈ decimalZeros, ∃ k < 10, c = Char.ofNat (first + k) := by
  obtain ⟨n, hn⟩ := Option.isSome_iff_exists.mp h
  obtain ⟨first, hfirst, hif⟩ := List.exists_of_findSome?_eq_some hn
  split at hif
  next hbounds =>
    rw [Bool.and_eq_true, decide_eq_true_iff, decide_eq_true_iff] at hbounds
    refine ⟨first, hfirst, c.toNat - first, by omega, ?_⟩
    rw [Nat.add_sub_of_le hbounds.1, Char.ofNat_toNat]
  next => cases hif

/-- No decimal digit of any script is blank. -/
theorem isBlank_of_isDecimalDigit {c : Char} (h : isDecimalDigit c = true) : isBlank c = false := by
  have hall : ∀ first ∈ decimalZeros, ∀ k < 10, isBlank (Char.ofNat (first + k)) = false := by
    decide +kernel
  obtain ⟨first, hfirst, k, hk, rfl⟩ := isDecimalDigit_cases h
  exact hall first hfirst k hk

section splitting

variable {cs digits whole fraction families rest : List Char} {c : Char}

theorem takeWhile_digits (hdigits : ∀ c ∈ digits, isDecimalDigit c = true)
    (hc : isDecimalDigit c = false) :
    (digits ++ c :: rest).takeWhile isDecimalDigit = digits := by
  rw [List.takeWhile_append_of_pos hdigits, List.takeWhile_cons_of_neg (by rw [hc]; nofun),
    List.append_nil]

theorem dropWhile_digits (hdigits : ∀ c ∈ digits, isDecimalDigit c = true)
    (hc : isDecimalDigit c = false) :
    (digits ++ c :: rest).dropWhile isDecimalDigit = c :: rest := by
  rw [List.dropWhile_append_of_pos hdigits, List.dropWhile_cons_of_neg (by rw [hc]; nofun)]

theorem splitSize_plainText (hdigit : ∀ c ∈ whole ++ fraction, isDecimalDigit c = true)
    (hc : isDecimalDigit c = false) (hpoint : c ≠ '.') :
    splitSize (plainText whole fraction ++ c :: rest) = (whole, fraction, c :: rest) := by
  have hwhole : ∀ c ∈ whole, isDecimalDigit c = true :=
    fun c hc => hdigit c (List.mem_append_left _ hc)
  have hfraction : ∀ c ∈ fraction, isDecimalDigit c = true :=
    fun c hc => hdigit c (List.mem_append_right _ hc)
  unfold plainText splitSize
  split
  next hnil =>
    subst hnil
    simp only [takeWhile_digits hwhole hc, dropWhile_digits hwhole hc]
    split
    next heq => exact absurd (List.cons.inj heq).1 hpoint
    next => rfl
  next hsome =>
    have hdot : isDecimalDigit '.' = false := by decide
    rw [List.append_assoc]
    simp only [List.cons_append, takeWhile_digits hwhole hdot, dropWhile_digits hwhole hdot,
      takeWhile_digits hfraction hc, dropWhile_digits hfraction hc]

/-- What is read as a size is a plain number. -/
theorem splitSize_spelled (cs : List Char) :
    cs = plainText (splitSize cs).1 (splitSize cs).2.1 ++ (splitSize cs).2.2 ∧
      ∀ c ∈ (splitSize cs).1 ++ (splitSize cs).2.1, isDecimalDigit c = true := by
  have hsplit := List.takeWhile_append_dropWhile (p := isDecimalDigit) (l := cs)
  have hdigit {ds : List Char} : ∀ c ∈ ds.takeWhile isDecimalDigit, isDecimalDigit c = true :=
    fun c hc => List.mem_takeWhile_imp hc
  unfold splitSize
  dsimp only
  split
  next rest hrest =>
    rw [hrest] at hsplit
    split
    next hnone =>
      refine ⟨hsplit.symm, ?_⟩
      rw [List.append_nil]
      exact hdigit
    next hsome =>
      have hback := List.takeWhile_append_dropWhile (p := isDecimalDigit) (l := rest)
      refine ⟨?_, ?_⟩
      · rw [plainText, if_neg hsome, List.append_assoc, List.cons_append, hback, hsplit]
      · intro c hc
        rcases List.mem_append.mp hc with hc | hc <;> exact hdigit c hc
  next =>
    refine ⟨hsplit.symm, ?_⟩
    rw [List.append_nil]
    exact hdigit

theorem dropWhile_plainText (hshown : whole ≠ [])
    (hdigit : ∀ c ∈ whole ++ fraction, isDecimalDigit c = true) :
    (plainText whole fraction ++ rest).dropWhile isBlank = plainText whole fraction ++ rest := by
  obtain ⟨c, cs, rfl⟩ := List.exists_cons_of_ne_nil hshown
  apply dropWhile_flush
  intro d hd
  have hcd : c = d := by
    unfold plainText at hd
    split at hd <;> exact Option.some.inj hd
  rw [← hcd]
  exact isBlank_of_isDecimalDigit (hdigit c List.mem_cons_self)

theorem SpecText.split (h : SpecText cs whole fraction families) :
    splitFontSpec cs = some (whole, fraction, families) := by
  obtain ⟨⟨before, gap, after, rfl, hgap, hblank⟩, hshown, hdigit, hnamed, hflush, hline⟩ := h
  obtain ⟨c, gap, rfl⟩ := List.exists_cons_of_ne_nil hgap
  have hbefore : ∀ d ∈ before, isBlank d = true := fun d hd => hblank d (by simp [hd])
  have hc : isBlank c = true := hblank c (by simp)
  have hstrip : strip isBlank (gap ++ (families ++ after)) = families := by
    rw [← List.append_assoc]
    exact strip_append (fun d hd => hblank d (by simp [hd])) (fun d hd => hblank d (by simp [hd]))
      hflush
  unfold splitFontSpec
  rw [List.dropWhile_append_of_pos hbefore, dropWhile_plainText hshown hdigit,
    splitSize_plainText hdigit (by decide) (by decide)]
  obtain ⟨d, ds, rfl⟩ := List.exists_cons_of_ne_nil hshown
  simp [hstrip, hc, hnamed, hline]

theorem specText_of_split (h : splitFontSpec cs = some (whole, fraction, families)) :
    SpecText cs whole fraction families := by
  have hsplit := List.takeWhile_append_dropWhile (p := isBlank) (l := cs)
  obtain ⟨hspelled, hdigit⟩ := splitSize_spelled (cs.dropWhile isBlank)
  unfold splitFontSpec at h
  generalize splitSize (cs.dropWhile isBlank) = parts at h hspelled hdigit
  split at h
  next => cases h
  next whole' fraction' c rest hshown =>
    dsimp only at h hspelled hdigit
    split at h
    next hcond =>
      simp only [Option.some.injEq, Prod.mk.injEq] at h
      obtain ⟨rfl, rfl, hfamilies⟩ := h
      rw [hfamilies] at hcond
      simp only [Bool.and_eq_true, decide_eq_true_eq, Bool.not_eq_true', List.contains_eq_mem,
        decide_eq_false_iff_not] at hcond
      obtain ⟨⟨hc, hnamed⟩, hline⟩ := hcond
      obtain ⟨⟨front, after, rfl, hends⟩, hflush⟩ := strip_eq_iff.mp hfamilies
      refine ⟨⟨cs.takeWhile isBlank, c :: front, after, ?_, List.cons_ne_nil _ _, ?_⟩, hshown,
        hdigit, hnamed, hflush, hline⟩
      · rw [List.append_assoc] at hspelled
        rw [List.cons_append, ← hspelled, hsplit]
      · intro d hd
        rw [List.append_assoc, List.mem_append, List.cons_append, List.mem_cons] at hd
        rcases hd with hd | rfl | hd
        · exact List.mem_takeWhile_imp hd
        · exact hc
        · exact hends d hd
    next => cases h
  next => cases h

/-- A spec is divided into its parts in one way, and a text that is no spec is not divided. -/
theorem splitFontSpec_iff :
    splitFontSpec cs = some (whole, fraction, families) ↔ SpecText cs whole fraction families :=
  ⟨specText_of_split, SpecText.split⟩

/-- Blanks around the families belong to the gap and to what comes after. -/
theorem specText_strip {before gap full : List Char} (hbefore : ∀ c ∈ before, isBlank c = true)
    (hgap : gap ≠ []) (hblank : ∀ c ∈ gap, isBlank c = true) (hshown : whole ≠ [])
    (hdigit : ∀ c ∈ whole ++ fraction, isDecimalDigit c = true)
    (hnamed : strip isBlank full ≠ []) (hline : '\n' ∉ strip isBlank full) :
    SpecText (before ++ (plainText whole fraction ++ 'p' :: 'x' :: (gap ++ full)))
      whole fraction (strip isBlank full) := by
  obtain ⟨⟨front, after, hfull, hends⟩, hflush⟩ := strip_trims isBlank full
  refine ⟨⟨before, gap ++ front, after, ?_, List.append_ne_nil_of_left_ne_nil hgap _, ?_⟩, hshown,
    hdigit, hnamed, hflush, hline⟩
  · rw [List.append_assoc] at hfull
    rw [List.append_assoc gap, ← hfull]
  · intro d hd
    simp only [List.append_assoc, List.mem_append] at hd
    rcases hd with hd | hd | hd
    · exact hbefore d hd
    · exact hblank d hd
    · exact hends d (List.mem_append.mpr hd)

end splitting

end GlyphAlgebra
