import GlyphAlgebra.Proofs.Text.Literal

namespace GlyphAlgebra

/-- Marks go with whatever comes before them. -/
def BreakClass.isMark : BreakClass → Bool
  | extend | joiner | spacingMark => true
  | _ => false

/-- Nothing but marks belongs behind these classes: they are marks, perhaps with a class before
them that draws in nothing. -/
def DrawsMarks : List BreakClass → Prop
  | [] => True
  | b :: before => b = .other ∨ b.isMark = true ∧ DrawsMarks before

theorem drawsMarks_other (before : List BreakClass) : DrawsMarks (.other :: before) := Or.inl rfl

theorem drawsMarks_mark {b : BreakClass} {before : List BreakClass} (hb : b.isMark = true)
    (h : DrawsMarks before) : DrawsMarks (b :: before) := Or.inr ⟨hb, h⟩

theorem drawsMarks_picture {before : List BreakClass} (h : DrawsMarks before) :
    pictureBefore before = false := by
  induction before with
  | nil => rfl
  | cons b before ih =>
    rcases h with rfl | ⟨hb, h⟩
    · rfl
    · cases b with
      | extend => exact ih h
      | joiner | spacingMark => rfl
      | _ => cases hb

theorem isMark_of_attaches {before : List BreakClass} {c : BreakClass} (h : DrawsMarks before)
    (ha : Attaches before c) : c.isMark = true := by
  cases ha with
  | newline => simp [DrawsMarks, BreakClass.isMark] at h
  | mark _ _ hc =>
    simp only [List.mem_cons, List.not_mem_nil, or_false] at hc
    rcases hc with rfl | rfl | rfl <;> rfl
  | prepended => simp [DrawsMarks, BreakClass.isMark] at h
  | leading => simp [DrawsMarks, BreakClass.isMark] at h
  | vowel _ hb =>
    simp only [List.mem_cons, List.not_mem_nil, or_false] at hb
    rcases hb with rfl | rfl <;> simp [DrawsMarks, BreakClass.isMark] at h
  | trailing _ hb =>
    simp only [List.mem_cons, List.not_mem_nil, or_false] at hb
    rcases hb with rfl | rfl <;> simp [DrawsMarks, BreakClass.isMark] at h
  | picture hp =>
    rcases h with h | ⟨_, h⟩
    · cases h
    · rw [drawsMarks_picture h] at hp
      cases hp
  | flag hf =>
    cases before with
    | nil => simp [regionalsBefore] at hf
    | cons b before =>
      have hb : b ≠ .regional := by
        rintro rfl
        simp [DrawsMarks, BreakClass.isMark] at h
      simp [regionalsBefore_cons, hb] at hf

def isMark (c : Char) : Bool := (breakClass c).isMark

theorem unbroken_marks {before : List BreakClass} {cs : List Char} (h : DrawsMarks before)
    (hu : Unbroken before cs) : ∀ c ∈ cs, isMark c = true := by
  induction cs generalizing before with
  | nil => simp
  | cons c cs ih =>
    obtain ⟨ha, hu⟩ := hu
    have hc : isMark c = true := isMark_of_attaches h ha
    intro d hd
    rcases List.mem_cons.mp hd with rfl | hd
    · exact hc
    · exact ih (drawsMarks_mark hc h) hu d hd

theorem unbroken_behind {before : List BreakClass} {front back : List Char}
    (h : Unbroken before (front ++ back)) : Unbroken (classesBack front ++ before) back := by
  induction front generalizing before with
  | nil => exact h
  | cons c front ih =>
    rw [classesBack_cons_append]
    exact ih h.2

/-- Behind a character of a literal that draws in nothing there are only marks. -/
theorem literal_marks_behind {text : String} (hl : IsLiteral text) {front marks : List Char}
    {d : Char} (h : text.toList = front ++ d :: marks) (hd : breakClass d = .other) :
    ∀ m ∈ marks, isMark m = true := by
  obtain ⟨c, tail, htext, _, _, hu⟩ := hl
  rw [h] at htext
  cases front with
  | nil =>
    obtain ⟨rfl, rfl⟩ := List.cons.inj htext
    exact unbroken_marks (hd ▸ drawsMarks_other []) hu
  | cons c' front =>
    obtain ⟨rfl, rfl⟩ := List.cons.inj htext
    exact unbroken_marks (hd ▸ drawsMarks_other _) (unbroken_behind hu).2

/-- A literal that starts with a mark has only marks. -/
theorem literal_all_marks {text : String} (hl : IsLiteral text) {m : Char} {tail : List Char}
    (h : text.toList = m :: tail) (hm : isMark m = true) : ∀ c ∈ text.toList, isMark c = true := by
  obtain ⟨c, rest, htext, _, _, hu⟩ := hl
  obtain ⟨rfl, rfl⟩ := List.cons.inj (h.symm.trans htext)
  have hfirst : DrawsMarks [breakClass m] := drawsMarks_mark hm trivial
  rw [h]
  intro x hx
  rcases List.mem_cons.mp hx with rfl | hx
  · exact hm
  · exact unbroken_marks hfirst hu x hx

/-- The first text is the second one behind a character that draws in nothing, and its marks. -/
def Ahead (rest rest' : List Char) : Prop :=
  ∃ d marks, rest = d :: (marks ++ rest') ∧ ∀ m ∈ marks, isMark m = true

/-- The text starts with a character that draws in nothing, if it has any. -/
def StartsPlain (rest : List Char) : Prop :=
  ∀ d after, rest = d :: after → breakClass d = .other

/-- Where texts start with literals and go on plainly, the literals are the same, or one of them
takes in some of what follows the other. -/
theorem literals_ahead {text text' : String} (hl : IsLiteral text) (hl' : IsLiteral text')
    {rest rest' : List Char} (hr : StartsPlain rest) (hr' : StartsPlain rest')
    (h : text.toList ++ rest = text'.toList ++ rest') :
    text = text' ∧ rest = rest' ∨ Ahead rest rest' ∨ Ahead rest' rest := by
  rcases List.append_eq_append_iff.mp h with ⟨more, htext, hrest⟩ | ⟨more, htext, hrest⟩
  · cases more with
    | nil =>
      rw [List.append_nil] at htext
      exact .inl ⟨(String.toList_inj.mp htext).symm, hrest⟩
    | cons d marks =>
      exact .inr (.inl ⟨d, marks, hrest, literal_marks_behind hl' htext (hr _ _ hrest)⟩)
  · cases more with
    | nil =>
      rw [List.append_nil] at htext
      exact .inl ⟨String.toList_inj.mp htext, hrest.symm⟩
    | cons d marks =>
      exact .inr (.inr ⟨d, marks, hrest, literal_marks_behind hl htext (hr' _ _ hrest)⟩)

end GlyphAlgebra
