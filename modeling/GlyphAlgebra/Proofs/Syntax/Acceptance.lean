import GlyphAlgebra.Proofs.Syntax.Completeness
import GlyphAlgebra.Proofs.Syntax.Tiers
import GlyphAlgebra.Proofs.Text.Scanning
import GlyphAlgebra.Reading

namespace GlyphAlgebra

theorem scans_text_iff {text : String} {tokens : List Token} :
    Scans text.toList tokens ↔ (scan text).map PlacedToken.token = tokens :=
  scans_iff

/-- A text is read as an expression just when its tokens derive it. -/
theorem parse_eq_some_iff {text : String} {e : Expr} :
    parse text = ⟨text, some e, none⟩ ↔ Derives 0 ((scan text).map PlacedToken.token) e := by
  rw [← parseTokens_eq_ok_iff]
  unfold parse
  split
  next e' h => simp [h]
  next err h => simp [h]

theorem parse_eq_some_of_scans {text : String} {tokens : List Token} {e : Expr}
    (hs : Scans text.toList tokens) (hd : Derives 0 tokens e) :
    parse text = ⟨text, some e, none⟩ := by
  rw [parse_eq_some_iff, scans_text_iff.mp hs]
  exact hd

theorem parse_cases (text : String) :
    (∃ e, parse text = ⟨text, some e, none⟩) ∨ ∃ d, parse text = ⟨text, none, some d⟩ := by
  unfold parse
  split
  next e _ => exact .inl ⟨e, rfl⟩
  next err _ => exact .inr ⟨err.diagnostic text.toList, rfl⟩

theorem parse_eq_some_of_expression {text : String} {e : Expr}
    (h : (parse text).expression = some e) : parse text = ⟨text, some e, none⟩ := by
  rcases parse_cases text with ⟨e', he⟩ | ⟨d, hd⟩
  · rw [he] at h ⊢
    cases h
    rfl
  · rw [hd] at h
    cases h

/-- The texts read as expressions are those whose tokens make up a phrase, and they are read as
what the phrase says. Every text has one division into tokens, and no tokens spell two expressions.
A text without a phrase has a diagnostic and no expression. -/
theorem parse_iff_phrase :
    (∀ text e, parse text = ⟨text, some e, none⟩ ↔
      ∃ tokens, Scans text.toList tokens ∧ Phrase .concat tokens e) ∧
    (∀ tokens e e', Phrase .concat tokens e → Phrase .concat tokens e' → e = e') ∧
    (∀ text : String, ∃ tokens, ∀ tokens', Scans text.toList tokens' ↔ tokens' = tokens) ∧
    (∀ text : String, (¬∃ tokens e, Scans text.toList tokens ∧ Phrase .concat tokens e) →
      ∃ d, parse text = ⟨text, none, some d⟩) := by
  have hiff (text : String) (e : Expr) : parse text = ⟨text, some e, none⟩ ↔
      ∃ tokens, Scans text.toList tokens ∧ Phrase .concat tokens e := by
    constructor
    · intro h
      have hd := parse_eq_some_iff.mp h
      exact ⟨_, scans_text_iff.mpr rfl, hd.phrase (Nat.le_refl 0)⟩
    · rintro ⟨tokens, hs, hp⟩
      exact parse_eq_some_of_scans hs hp.derives
  refine ⟨hiff, ?_, ?_, ?_⟩
  · intro tokens e e' h h'
    exact Derives.unique h.derives h'.derives
  · intro text
    exact ⟨_, fun tokens' => scans_text_iff.trans eq_comm⟩
  · intro text hn
    rcases parse_cases text with ⟨e, he⟩ | hd
    · obtain ⟨tokens, hs, hp⟩ := (hiff text e).mp he
      exact absurd ⟨tokens, e, hs, hp⟩ hn
    · exact hd

end GlyphAlgebra
