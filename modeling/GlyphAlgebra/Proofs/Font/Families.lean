import GlyphAlgebra.Proofs.Font.Format
import GlyphAlgebra.Proofs.Number.Underflow

namespace GlyphAlgebra

/-- What a piece of a list names: it stands between blanks, and inside of them between quotation
marks. -/
def Names (piece name : List Char) : Prop :=
  ∃ inner, Trims isBlank piece inner ∧ Trims isQuoteMark inner name

/-- The families a text lists: what its pieces between the commas name, in order, without those
that name nothing. -/
def Lists (cs : List Char) (families : List String) : Prop :=
  ∃ pieces names, pieces ≠ [] ∧ (∀ piece ∈ pieces, ',' ∉ piece) ∧ cs = [','].intercalate pieces ∧
    List.Forall₂ Names pieces names ∧ families.map String.toList = names.filter (· ≠ [])

theorem familyName_eq_iff {piece name : List Char} :
    familyName piece = name ↔ Names piece name := by
  constructor
  · rintro rfl
    exact ⟨_, strip_trims _ _, strip_trims _ _⟩
  · rintro ⟨inner, hpiece, hinner⟩
    rw [familyName, strip_eq_iff.mpr hpiece, strip_eq_iff.mpr hinner]

theorem map_familyName_eq_iff {pieces names : List (List Char)} :
    pieces.map familyName = names ↔ List.Forall₂ Names pieces names := by
  rw [← List.forall₂_eq_eq_eq, List.forall₂_map_left_iff]
  simp only [familyName_eq_iff]

/-- Induction over a list by its first comma. -/
@[elab_as_elim]
theorem comma_induction {motive : List Char → Prop} (single : ∀ piece, ',' ∉ piece → motive piece)
    (more : ∀ piece rest, ',' ∉ piece → motive rest → motive (piece ++ ',' :: rest))
    (cs : List Char) : motive cs := by
  induction hn : cs.length using Nat.strong_induction_on generalizing cs with
  | _ n ih =>
    by_cases hc : ',' ∈ cs
    · obtain ⟨piece, rest, rfl, hpiece⟩ := List.eq_append_cons_of_mem hc
      rw [List.length_append, List.length_cons] at hn
      exact more piece rest hpiece (ih rest.length (by omega) rest rfl)
    · exact single cs hc

section lists

variable {cs piece piece' front back : List Char} {families : List String}

theorem comma_notMem_of_mem_splitOn (h : piece ∈ cs.splitOn ',') : ',' ∉ piece := by
  induction cs using comma_induction with
  | single cs hcs =>
    rw [List.splitOn_eq_singleton hcs, List.mem_singleton] at h
    rwa [h]
  | more first rest hfirst ih =>
    rw [List.splitOn_append_cons_self_of_not_mem hfirst, List.mem_cons] at h
    rcases h with rfl | h
    · exact hfirst
    · exact ih h

theorem familyNames_toList (cs : List Char) :
    (familyNames cs).map String.toList = ((cs.splitOn ',').map familyName).filter (· ≠ []) := by
  rw [familyNames, List.map_map]
  exact (List.map_congr_left fun name _ => String.toList_ofList).trans (List.map_id _)

theorem familyNames_eq_iff : familyNames cs = families ↔ Lists cs families := by
  have hinj : Function.Injective (List.map String.toList) :=
    List.map_injective_iff.mpr fun _ _ => String.toList_inj.mp
  constructor
  · rintro rfl
    exact ⟨cs.splitOn ',', (cs.splitOn ',').map familyName, List.splitOn_ne_nil _ _,
      fun _ => comma_notMem_of_mem_splitOn, (List.intercalate_splitOn _).symm,
      map_familyName_eq_iff.mp rfl, familyNames_toList cs⟩
  · rintro ⟨pieces, names, hpieces, hcomma, rfl, hnames, hfamilies⟩
    apply hinj
    rw [hfamilies, familyNames_toList, List.splitOn_intercalate _ hcomma hpieces,
      map_familyName_eq_iff.mpr hnames]

theorem familyNames_append (xs ys : List Char) :
    familyNames (xs ++ ',' :: ys) = familyNames xs ++ familyNames ys := by
  simp only [familyNames, List.splitOn_append_cons_self, List.map_append, List.filter_append]

theorem familyNames_congr (h : ',' ∉ piece) (h' : ',' ∉ piece')
    (hname : familyName piece = familyName piece') : familyNames piece = familyNames piece' := by
  rw [familyNames, familyNames, List.splitOn_eq_singleton h, List.splitOn_eq_singleton h',
    List.map_singleton, List.map_singleton, hname]

/-- Blanks around a list do not matter to its families. -/
theorem familyNames_around (hfront : ∀ c ∈ front, isBlank c = true)
    (hback : ∀ c ∈ back, isBlank c = true) :
    familyNames (front ++ cs ++ back) = familyNames cs := by
  have hcomma {blanks : List Char} (hblanks : ∀ c ∈ blanks, isBlank c = true) : ',' ∉ blanks := by
    intro h
    exact absurd (hblanks _ h) (by decide)
  have hpiece {front back piece : List Char} (hfront : ∀ c ∈ front, isBlank c = true)
      (hback : ∀ c ∈ back, isBlank c = true) (h : ',' ∉ piece) :
      familyNames (front ++ piece ++ back) = familyNames piece := by
    apply familyNames_congr _ h
    · rw [familyName, familyName, strip_around hfront hback]
    · simp [h, hcomma hfront, hcomma hback]
  induction cs using comma_induction generalizing front with
  | single piece h => exact hpiece hfront hback h
  | more piece rest h ih =>
    have hnone : ∀ c ∈ ([] : List Char), isBlank c = true := by simp
    have hrest := ih hnone
    have hfirst := hpiece hfront hnone h
    rw [List.nil_append] at hrest
    rw [List.append_nil] at hfirst
    calc familyNames (front ++ (piece ++ ',' :: rest) ++ back)
        = familyNames ((front ++ piece) ++ ',' :: (rest ++ back)) := by
          simp only [List.append_assoc, List.cons_append]
      _ = familyNames (piece ++ ',' :: rest) := by
          rw [familyNames_append, familyNames_append, hrest, hfirst]

theorem familyNames_strip (cs : List Char) : familyNames (strip isBlank cs) = familyNames cs := by
  obtain ⟨⟨front, back, hcs, hends⟩, -⟩ := strip_trims isBlank cs
  conv_rhs => rw [hcs]
  exact (familyNames_around (fun c hc => hends c (List.mem_append_left _ hc))
    (fun c hc => hends c (List.mem_append_right _ hc))).symm

end lists

/-- A family that can be written in a list: a name in one line, with no comma, no blank and no
quotation mark at its ends. -/
structure PlainName (name : List Char) : Prop where
  shown : name ≠ []
  comma : ',' ∉ name
  line : '\n' ∉ name
  unpadded : Flush isBlank name
  unquoted : Flush isQuoteMark name

instance (name : List Char) : Decidable (PlainName name) :=
  decidable_of_iff
    (name ≠ [] ∧ ',' ∉ name ∧ '\n' ∉ name ∧ Flush isBlank name ∧ Flush isQuoteMark name)
    ⟨fun ⟨h₁, h₂, h₃, h₄, h₅⟩ => ⟨h₁, h₂, h₃, h₄, h₅⟩, fun ⟨h₁, h₂, h₃, h₄, h₅⟩ => ⟨h₁, h₂, h₃, h₄, h₅⟩⟩

/-- A name with quotation marks around it, or with none, and blanks around these. -/
structure Writes (name piece : List Char) : Prop where
  laidOut : ∃ before marks marks' after, piece = before ++ (marks ++ name ++ marks') ++ after ∧
    (∀ c ∈ before ++ after, isBlank c = true ∧ c ≠ '\n') ∧
    ∀ c ∈ marks ++ marks', isQuoteMark c = true

section writing

variable {name piece : List Char}

theorem isBlank_of_isQuoteMark {c : Char} (h : isQuoteMark c = true) : isBlank c = false := by
  rw [isQuoteMark, Bool.or_eq_true, decide_eq_true_iff, decide_eq_true_iff] at h
  rcases h with rfl | rfl <;> decide

/-- Quotation marks keep the ends of a name free of blanks. -/
theorem flush_quoted {marks marks' : List Char} (hname : Flush isBlank name)
    (hshown : name ≠ []) (hmarks : ∀ c ∈ marks ++ marks', isQuoteMark c = true) :
    Flush isBlank (marks ++ name ++ marks') := by
  have hmark {c : Char} (hc : c ∈ marks ++ marks') : isBlank c = false :=
    isBlank_of_isQuoteMark (hmarks c hc)
  constructor
  · intro c hc
    rw [List.append_assoc, List.head?_append, Option.or_eq_some_iff] at hc
    rcases hc with hc | ⟨-, hc⟩
    · exact hmark (List.mem_append_left _ (List.mem_of_head? hc))
    · rw [List.head?_append_of_ne_nil _ hshown] at hc
      exact hname.first c hc
  · intro c hc
    rw [List.getLast?_append, Option.or_eq_some_iff] at hc
    rcases hc with hc | ⟨-, hc⟩
    · exact hmark (List.mem_append_right _ (List.mem_of_getLast? hc))
    · rw [List.getLast?_append_of_ne_nil _ hshown] at hc
      exact hname.last c hc

theorem Writes.names (h : Writes name piece) (hname : PlainName name) : Names piece name := by
  obtain ⟨before, marks, marks', after, rfl, hblank, hmarks⟩ := h.laidOut
  refine ⟨marks ++ name ++ marks', ⟨⟨before, after, rfl, fun c hc => (hblank c hc).1⟩, ?_⟩,
    ⟨⟨marks, marks', rfl, hmarks⟩, hname.unquoted⟩⟩
  exact flush_quoted hname.unpadded hname.shown hmarks

/-- A piece brings no comma and no line break to its list. -/
theorem Writes.comma_line (h : Writes name piece) (hname : PlainName name) :
    ',' ∉ piece ∧ '\n' ∉ piece := by
  obtain ⟨before, marks, marks', after, rfl, hblank, hmarks⟩ := h.laidOut
  have hcases {c : Char} (hc : c ∈ before ++ (marks ++ name ++ marks') ++ after) :
      c ∈ before ++ after ∨ c ∈ marks ++ marks' ∨ c ∈ name := by
    simp only [List.mem_append] at hc ⊢
    tauto
  constructor
  · intro hc
    rcases hcases hc with hc | hc | hc
    · exact absurd (hblank _ hc).1 (by decide)
    · exact absurd (hmarks _ hc) (by decide)
    · exact hname.comma hc
  · intro hc
    rcases hcases hc with hc | hc | hc
    · exact (hblank _ hc).2 rfl
    · exact absurd (hmarks _ hc) (by decide)
    · exact hname.line hc

theorem mem_intercalate {c sep : Char} {texts : List (List Char)}
    (h : c ∈ [sep].intercalate texts) : c = sep ∨ ∃ text ∈ texts, c ∈ text := by
  induction texts with
  | nil => simp at h
  | cons text texts ih =>
    cases texts with
    | nil =>
      rw [List.intercalate_singleton] at h
      exact .inr ⟨text, List.mem_cons_self, h⟩
    | cons text' texts =>
      rw [List.intercalate_cons_cons, List.append_assoc, List.mem_append, List.mem_append,
        List.mem_singleton] at h
      rcases h with h | h | h
      · exact .inr ⟨text, List.mem_cons_self, h⟩
      · exact .inl h
      · exact (ih h).imp_right fun ⟨t, ht, hc⟩ => ⟨t, List.mem_cons_of_mem _ ht, hc⟩

theorem comma_line_of_writes {names pieces : List (List Char)}
    (h : List.Forall₂ Writes names pieces) (hplain : ∀ name ∈ names, PlainName name) :
    ∀ piece ∈ pieces, ',' ∉ piece ∧ '\n' ∉ piece := by
  induction h with
  | nil => simp
  | cons hfirst _ ih =>
    rw [List.forall_mem_cons] at hplain ⊢
    exact ⟨hfirst.comma_line hplain.1, ih hplain.2⟩

theorem names_of_writes {names pieces : List (List Char)}
    (h : List.Forall₂ Writes names pieces) (hplain : ∀ name ∈ names, PlainName name) :
    List.Forall₂ Names pieces names := by
  induction h with
  | nil => exact .nil
  | cons hfirst _ ih =>
    rw [List.forall_mem_cons] at hplain
    exact .cons (hfirst.names hplain.1) (ih hplain.2)

/-- A list of names, each in a piece of its own, is read back. -/
theorem lists_of_writes {names : List String} {pieces : List (List Char)} (hnamed : names ≠ [])
    (h : List.Forall₂ Writes (names.map String.toList) pieces)
    (hplain : ∀ name ∈ names, PlainName name.toList) : Lists ([','].intercalate pieces) names := by
  have hplain : ∀ name ∈ names.map String.toList, PlainName name := List.forall_mem_map.mpr hplain
  have hpieces : pieces ≠ [] := by
    rintro rfl
    exact hnamed (List.map_eq_nil_iff.mp (List.forall₂_nil_right_iff.mp h))
  refine ⟨pieces, names.map String.toList, hpieces,
    fun piece hp => (comma_line_of_writes h hplain piece hp).1, rfl, names_of_writes h hplain, ?_⟩
  refine (List.filter_eq_self.mpr fun name hname => ?_).symm
  exact decide_eq_true (hplain name hname).shown

end writing

/-- A spec with a list of names in it, each written as it may be, and with blanks around. -/
structure WrittenSpec (cs whole fraction : List Char) (names : List String) : Prop where
  laidOut : ∃ before gap pieces after, cs = before ++ (plainText whole fraction ++
    'p' :: 'x' :: (gap ++ ([','].intercalate pieces ++ after))) ∧ gap ≠ [] ∧
    (∀ c ∈ before ++ gap ++ after, isBlank c = true) ∧
    List.Forall₂ Writes (names.map String.toList) pieces
  shown : whole ≠ []
  digit : ∀ c ∈ whole ++ fraction, isDecimalDigit c = true
  named : names ≠ []
  plain : ∀ name ∈ names, PlainName name.toList

/-- The float nearest to a number, by the digits before and behind its point. -/
def plainFloat (whole fraction : List Char) : Float :=
  nearestDecimal (digitsValue (whole ++ fraction)) (-fraction.length)

theorem plainFloat_eq_zero_iff (whole fraction : List Char) :
    plainFloat whole fraction = 0 ↔
      (digitsValue (whole ++ fraction) : ℚ) / 10 ^ fraction.length ≤ 2 ^ (-1075 : Int) := by
  rw [plainFloat, nearestDecimal_eq_zero_iff, zpow_neg, zpow_natCast, div_eq_mul_inv]

section reading

variable {text : String} {whole fraction families : List Char} {names : List String}

theorem WrittenSpec.specText {cs : List Char} (h : WrittenSpec cs whole fraction names) :
    ∃ families, SpecText cs whole fraction families ∧ Lists families names := by
  obtain ⟨⟨before, gap, pieces, after, rfl, hgap, hblank, hwrites⟩, hshown, hdigit, hnamed,
    hplain⟩ := h
  have hafter : ∀ c ∈ after, isBlank c = true := fun c hc => hblank c (by simp [hc])
  have hlist : familyNames (strip isBlank ([','].intercalate pieces ++ after)) = names := by
    have haround := @familyNames_around ([','].intercalate pieces) [] after (by simp) hafter
    rw [List.nil_append] at haround
    rw [familyNames_strip, haround]
    exact familyNames_eq_iff.mpr (lists_of_writes hnamed hwrites hplain)
  have hstrip : strip isBlank ([','].intercalate pieces ++ after) =
      strip isBlank ([','].intercalate pieces) :=
    @strip_around isBlank ([','].intercalate pieces) [] after (by simp) hafter
  refine ⟨_, specText_strip (fun c hc => hblank c (by simp [hc])) hgap
    (fun c hc => hblank c (by simp [hc])) hshown hdigit ?_ ?_, familyNames_eq_iff.mp hlist⟩
  · intro hnil
    rw [hnil] at hlist
    exact hnamed hlist.symm
  · rw [hstrip]
    intro hc
    rcases mem_intercalate (mem_of_mem_strip hc) with hc | ⟨piece, hpiece, hc⟩
    · exact absurd hc (by decide)
    · exact (comma_line_of_writes hwrites (List.forall_mem_map.mpr hplain) piece hpiece).2 hc

theorem ofText_of_specText (h : SpecText text.toList whole fraction families) :
    FontSpec.ofText text =
      if plainFloat whole fraction = 0 then .error (.notPositive text)
      else .ok ⟨plainFloat whole fraction, familyNames families⟩ := by
  rw [FontSpec.ofText, splitFontSpec_iff.mpr h]
  exact if_congr (nearestDecimal_unsigned _ _).le_zero_iff rfl rfl

theorem ofText_of_no_specText
    (h : ¬∃ whole fraction families, SpecText text.toList whole fraction families) :
    FontSpec.ofText text = .error (.malformed text) := by
  rw [FontSpec.ofText]
  split
  next => rfl
  next whole fraction families hsplit =>
    exact absurd ⟨whole, fraction, families, splitFontSpec_iff.mp hsplit⟩ h

end reading

/-- A text is refused exactly if it is no spec, or one whose size is zero as a float, being at most
half of the least positive one. Of any other the families are those that it lists, which are all the
names written in it. -/
theorem ofText_format (text : String) :
    ((∃ e, FontSpec.ofText text = .error e) ↔
      (¬∃ whole fraction families, SpecText text.toList whole fraction families) ∨
        ∃ whole fraction families, SpecText text.toList whole fraction families ∧
          plainFloat whole fraction = 0) ∧
    (∀ whole fraction, plainFloat whole fraction = 0 ↔
      (digitsValue (whole ++ fraction) : ℚ) / 10 ^ fraction.length ≤ 2 ^ (-1075 : Int)) ∧
    (∀ whole fraction families, SpecText text.toList whole fraction families →
      plainFloat whole fraction ≠ 0 →
        ∃ spec, FontSpec.ofText text = .ok spec ∧ spec.size = plainFloat whole fraction ∧
          Lists families spec.families) ∧
    ∀ whole fraction names, WrittenSpec text.toList whole fraction names →
      plainFloat whole fraction ≠ 0 →
        FontSpec.ofText text = .ok ⟨plainFloat whole fraction, names⟩ := by
  refine ⟨⟨?_, ?_⟩, plainFloat_eq_zero_iff, ?_, ?_⟩
  · rintro ⟨e, he⟩
    rw [or_iff_not_imp_left, not_not]
    rintro ⟨whole, fraction, families, hspec⟩
    rw [ofText_of_specText hspec] at he
    by_cases hzero : plainFloat whole fraction = 0
    · exact ⟨whole, fraction, families, hspec, hzero⟩
    · rw [if_neg hzero] at he
      cases he
  · rintro (hnone | ⟨whole, fraction, families, hspec, hzero⟩)
    · exact ⟨_, ofText_of_no_specText hnone⟩
    · rw [ofText_of_specText hspec, if_pos hzero]
      exact ⟨_, rfl⟩
  · intro whole fraction families hspec hsize
    rw [ofText_of_specText hspec, if_neg hsize]
    exact ⟨_, rfl, rfl, familyNames_eq_iff.mp rfl⟩
  · intro whole fraction names hwritten hsize
    obtain ⟨families, hspec, hlists⟩ := hwritten.specText
    rw [ofText_of_specText hspec, if_neg hsize, familyNames_eq_iff.mpr hlists]

theorem ofText_format_noto :
    WrittenSpec "12.5px 'Noto Sans' , serif".toList ['1', '2'] ['5'] ["Noto Sans", "serif"] ∧
      plainFloat ['1', '2'] ['5'] ≠ 0 ∧
      FontSpec.ofText "12.5px 'Noto Sans' , serif" =
        .ok ⟨plainFloat ['1', '2'] ['5'], ["Noto Sans", "serif"]⟩ ∧
      SpecText "0px serif".toList ['0'] [] "serif".toList ∧
      ∃ e, FontSpec.ofText "0px serif" = .error e := by
  have hall {p : Char → Bool} {cs : List Char} (h : cs.all p = true) : ∀ c ∈ cs, p c = true :=
    List.all_eq_true.mp h
  have hnoto : Writes "Noto Sans".toList "'Noto Sans' ".toList := by
    refine ⟨[], ['\''], ['\''], [' '], by decide +kernel, ?_, hall (by decide)⟩
    intro c hc
    rw [List.mem_singleton.mp hc]
    decide
  have hserif : Writes "serif".toList " serif".toList := by
    refine ⟨[' '], [], [], [], by decide +kernel, ?_, hall (by decide)⟩
    intro c hc
    rw [List.mem_singleton.mp hc]
    decide
  have hwritten : WrittenSpec "12.5px 'Noto Sans' , serif".toList ['1', '2'] ['5']
      ["Noto Sans", "serif"] :=
    ⟨⟨[], [' '], ["'Noto Sans' ".toList, " serif".toList], [], by decide +kernel, by simp,
      hall (by decide), .cons hnoto (.cons hserif .nil)⟩, by simp, hall (by decide), by simp,
      by decide +kernel⟩
  have hzero : SpecText "0px serif".toList ['0'] [] "serif".toList :=
    ⟨⟨[], [' '], [], by decide +kernel, by simp, hall (by decide)⟩, by simp, hall (by decide),
      by decide, by decide +kernel, by decide⟩
  have hsize : plainFloat ['1', '2'] ['5'] ≠ 0 := by decide +kernel
  exact ⟨hwritten, hsize, (ofText_format _).2.2.2 _ _ _ hwritten hsize, hzero,
    (ofText_format _).1.mpr (.inr ⟨_, _, _, hzero, by decide +kernel⟩)⟩

end GlyphAlgebra
