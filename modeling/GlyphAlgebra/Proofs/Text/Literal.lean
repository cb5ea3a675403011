import GlyphAlgebra.Proofs.Text.Scanning

namespace GlyphAlgebra

/-- A text that a literal may have: one cluster, and no white space or symbol at its start. -/
def IsLiteral (text : String) : Prop :=
  ∃ c tail, text.toList = c :: tail ∧ isSpacing c = false ∧ symbolToken? c = none ∧
    Unbroken [breakClass c] tail

/-- The last code point draws the next one into its cluster. -/
def endsInPrepend (text : String) : Bool :=
  (classesBack text.toList).head? = some .prepend

/-- The cluster of a text ends before what follows it. -/
def Apart (text : String) (rest : List Char) : Prop :=
  ∀ d after, rest = d :: after → ¬Attaches (classesBack text.toList) (breakClass d)

theorem scans_isLiteral {cs : List Char} {tokens : List Token} (h : Scans cs tokens)
    {text : String} (ht : .literal text ∈ tokens) : IsLiteral text := by
  induction h with
  | nil => simp at ht
  | spacing _ _ ih => exact ih ht
  | bars _ ih => exact ih (by simpa using ht)
  | @symbol c t _ _ hc _ _ ih =>
    rcases List.mem_cons.mp ht with rfl | ht
    · unfold symbolToken? at hc
      split at hc <;> cases hc
    · exact ih ht
  | @literal c tail rest _ hs hc hl _ ih =>
    rcases List.mem_cons.mp ht with heq | ht
    · cases heq
      exact ⟨c, tail, String.toList_ofList, hs, hc, hl.unbroken⟩
    · exact ih ht

theorem scans_text_literal_iff {text : String} (hl : IsLiteral text) {rest : List Char}
    {tokens : List Token} :
    Scans (text.toList ++ rest) (.literal text :: tokens) ↔ Apart text rest ∧ Scans rest tokens := by
  obtain ⟨c, tail, htext, hs, hc, hu⟩ := hl
  have hof : text = String.ofList (c :: tail) := by rw [← htext, String.ofList_toList]
  have happ : text.toList ++ rest = c :: (tail ++ rest) := by rw [htext]; rfl
  rw [happ, hof, scans_literal_iff hs hc]
  constructor
  · rintro ⟨hcluster, h⟩
    refine ⟨fun d after hd => ?_, h⟩
    rw [String.toList_ofList]
    exact hcluster.ends d after hd
  · rintro ⟨hapart, h⟩
    refine ⟨⟨hu, fun d after hd => ?_⟩, h⟩
    have ha := hapart d after hd
    rwa [String.toList_ofList] at ha

theorem attaches_other_iff {b : BreakClass} {before : List BreakClass} :
    Attaches (b :: before) .other ↔ b = .prepend := by
  constructor
  · intro h
    cases h with
    | mark _ _ hc => simp at hc
    | prepended => rfl
    | leading _ hc => simp at hc
    | vowel _ _ hc => simp at hc
  · rintro rfl
    exact .prepended before rfl

/-- A blank or a parenthesis ends the cluster of a text that does not end in a prepended mark. -/
theorem apart_iff {text : String} (hl : IsLiteral text) {d : Char} {after : List Char}
    (hd : breakClass d = .other) : Apart text (d :: after) ↔ endsInPrepend text = false := by
  obtain ⟨c, tail, htext, _, _, _⟩ := hl
  obtain ⟨b, before, hback⟩ : ∃ b before, classesBack text.toList = b :: before := by
    apply List.exists_cons_of_ne_nil
    simp [classesBack, htext]
  have hother : Attaches (b :: before) .other ↔ endsInPrepend text = true := by
    rw [attaches_other_iff, endsInPrepend, hback]
    simp
  have hapart : Apart text (d :: after) ↔ ¬Attaches (b :: before) .other := by
    constructor
    · intro h
      have ha := h d after rfl
      rwa [hback, hd] at ha
    · intro h d' after' heq
      obtain ⟨rfl, _⟩ := List.cons.inj heq
      rwa [hback, hd]
  rw [hapart, hother, Bool.not_eq_true]

theorem apart_nil (text : String) : Apart text [] := fun _ _ h => by cases h

end GlyphAlgebra
