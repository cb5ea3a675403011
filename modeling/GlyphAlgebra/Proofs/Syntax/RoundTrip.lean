import GlyphAlgebra.Proofs.Syntax.Acceptance
import GlyphAlgebra.Proofs.Syntax.Grouping
import GlyphAlgebra.Proofs.Syntax.Parting

namespace GlyphAlgebra

/-- What the grammar derives is read again from its infix form just when no literal draws in what
follows it there. -/
theorem infixForm_reread_iff {e : Expr} (hd : Derives 0 e.tokens e)
    (hl : ∀ text ∈ e.literals, IsLiteral text) :
    parse (infixForm e) = ⟨infixForm e, some e, none⟩ ↔
      ∀ text ∈ e.followed, endsInPrepend text = false := by
  have hscan := scans_spaced_iff fun text ht => hl text (literal_mem_tokens.mp ht)
  rw [← parted_iff hl, ← hscan, ← hd.infixForm_toList]
  constructor
  · intro h
    have ht := (parse_eq_some_iff.mp h).tokens_eq
    exact scans_text_iff.mpr ht
  · intro h
    exact parse_eq_some_of_scans h hd

theorem parse_tokens {text : String} {e : Expr} (h : (parse text).expression = some e) :
    Derives 0 e.tokens e ∧ Scans text.toList e.tokens := by
  have hd := parse_eq_some_iff.mp (parse_eq_some_of_expression h)
  have ht := hd.tokens_eq
  exact ⟨ht ▸ hd, scans_text_iff.mpr ht⟩

/-- An expression that was read from a text is read again from its infix form just when no
literal but one at the very end of that form ends in a code point that draws in the next one. -/
theorem reparse_infixForm_iff {text : String} {e : Expr} (h : (parse text).expression = some e) :
    parse (infixForm e) = ⟨infixForm e, some e, none⟩ ↔
      ∀ l ∈ e.followed, endsInPrepend l = false := by
  obtain ⟨hd, hs⟩ := parse_tokens h
  exact infixForm_reread_iff hd fun l hl => scans_isLiteral hs (literal_mem_tokens.mpr hl)

theorem reparse_infixForm_of_last :
    let e : Expr := .binary .sub (.literal "A")
      (.binary .xor (.paren (.literal "\u0600B")) (.literal "\u0600"))
    (parse "A-(\u0600B)\n^\u0600").expression = some e ∧
      parse (infixForm e) = ⟨infixForm e, some e, none⟩ := by
  intro e
  have h : (parse "A-(\u0600B)\n^\u0600").expression = some e := by decide +kernel
  exact ⟨h, (reparse_infixForm_iff h).mpr (by decide)⟩

/-- A newline keeps a plus out of the cluster before it, but the blank of the infix form does
not stay out. -/
theorem reparse_infixForm_fails :
    ¬∀ text e, (parse text).expression = some e →
      parse (infixForm e) = ⟨infixForm e, some e, none⟩ := by
  intro h
  have hread : (parse "\u0600\n+A").expression =
      some (.binary .add (.literal "\u0600") (.literal "A")) := by decide +kernel
  have hagain : (parse (infixForm (.binary .add (.literal "\u0600") (.literal "A")))).expression =
      some (.binary .add (.literal "\u0600 ") (.literal "A")) := by decide +kernel
  rw [h _ _ hread] at hagain
  exact absurd hagain (by decide)

/-- Any tree whose literals are whole clusters is read again from its infix form, with
parentheses around the operands that need them and nowhere else. -/
theorem parse_infixForm {e : Expr}
    (hl : ∀ text ∈ e.literals, IsLiteral text ∧ endsInPrepend text = false) :
    parse (infixForm e) = ⟨infixForm e, some e.regroup, none⟩ ∧
      e.regroup.stripParens = e.stripParens ∧ infixForm e.regroup = infixForm e := by
  have hd := (regroup_derives e).weaken (Nat.zero_le _)
  rw [← literals_regroup] at hl
  refine ⟨?_, stripParens_regroup e, infixForm_regroup e⟩
  rw [← infixForm_regroup e]
  apply (infixForm_reread_iff hd fun text ht => (hl text ht).1).mpr
  intro text ht
  exact (hl text (followed_subset_literals ht)).2

theorem parse_infixForm_nested :
    let e : Expr := .binary .xor (.binary .concat (.literal "A") (.literal "e\u0301"))
      (.binary .xor (.literal "B") (.paren (.literal "C")))
    (∀ text ∈ e.literals, IsLiteral text ∧ endsInPrepend text = false) ∧
      (parse (infixForm e)).expression = some (.binary .xor
        (.paren (.binary .concat (.literal "A") (.literal "e\u0301")))
        (.paren (.binary .xor (.literal "B") (.paren (.literal "C"))))) := by
  intro e
  have h : ∀ text ∈ e.literals, IsLiteral text ∧ endsInPrepend text = false := by
    intro text ht
    simp only [e, Tree.literals, List.cons_append, List.nil_append, List.mem_cons,
      List.not_mem_nil, or_false] at ht
    rcases ht with rfl | rfl | rfl | rfl
    · exact ⟨⟨'A', [], rfl, rfl, rfl, trivial⟩, by decide⟩
    · exact ⟨⟨'e', ['\u0301'], rfl, rfl, rfl, .mark [] rfl (by decide), trivial⟩, by decide⟩
    · exact ⟨⟨'B', [], rfl, rfl, rfl, trivial⟩, by decide⟩
    · exact ⟨⟨'C', [], rfl, rfl, rfl, trivial⟩, by decide⟩
  refine ⟨h, ?_⟩
  rw [(parse_infixForm h).1]
  rfl

end GlyphAlgebra
