import GlyphAlgebra.Proofs.Syntax.Soundness

namespace GlyphAlgebra

/-- Behind these frames an operand of the given strength is taken as a whole. -/
def Admits (frames : List Frame) (strength : Nat) : Prop :=
  ∀ left op rest, frames = .operand left op :: rest → op.strength < strength

theorem settle_of_admits {frames : List Frame} {strength : Nat} (h : Admits frames strength)
    (e : Expr) : settle strength e frames = (e, frames) := by
  cases frames with
  | nil => rfl
  | cons frame frames =>
    cases frame with
    | group => rfl
    | operand left op =>
      have hlt := h left op frames rfl
      rw [settle, if_neg (by omega)]

/-- The tokens of an operand are read to their end. Its last operators may still wait then, but
whatever weaker operator comes next finds the operand. -/
theorem Derives.reads {s : Nat} {tokens : List Token} {e : Expr} (h : Derives s tokens e)
    {frames : List Frame} (hf : Admits frames s) {ts : List PlacedToken}
    (ht : ts.map PlacedToken.token = tokens) :
    ∃ frames' e', Reader.readAll ⟨frames, none⟩ ts = .ok ⟨frames', some e'⟩ ∧
      ∀ k ≤ s, settle k e' frames' = settle k e frames := by
  induction h generalizing frames ts with
  | literal s text =>
    obtain ⟨t, rfl, hlit⟩ := List.map_eq_singleton_iff.mp ht
    exact ⟨frames, .literal text, readAll_cons (advance_literal hlit frames) [], fun k _ => rfl⟩
  | @paren s inner e h ih =>
    obtain ⟨front, last, rfl, hfront, hlast⟩ := List.map_eq_append_iff.mp ht
    obtain ⟨t, within, rfl, hopen, hwithin⟩ := List.map_eq_cons_iff.mp hfront
    obtain ⟨u, rfl, hclose⟩ := List.map_eq_singleton_iff.mp hlast
    have hgroup : Admits (.group :: frames) 0 := fun left op rest he => by simp at he
    obtain ⟨frames', e', hread, hset⟩ := ih hgroup hwithin
    have hinner : settle 0 e' frames' = (e, .group :: frames) := by
      rw [hset 0 (Nat.le_refl 0), settle_of_admits hgroup]
    refine ⟨frames, .paren e, ?_, fun k _ => rfl⟩
    rw [List.cons_append, readAll_cons (advance_opening hopen frames), readAll_append hread,
      readAll_cons (advance_closing hclose hinner)]
    rfl
  | @binary s op lefts rights left right hle hl hr ihl ihr =>
    obtain ⟨front, last, rfl, hfront, hlast⟩ := List.map_eq_append_iff.mp ht
    obtain ⟨t, back, rfl, hop, hback⟩ := List.map_eq_cons_iff.mp hlast
    have hfl : Admits frames op.strength := fun left' op' rest he =>
      Nat.lt_of_lt_of_le (hf left' op' rest he) hle
    obtain ⟨frames₁, e₁, hread₁, hset₁⟩ := ihl hfl hfront
    have hleft : settle op.strength e₁ frames₁ = (left, frames) := by
      rw [hset₁ op.strength (Nat.le_refl _), settle_of_admits hfl]
    have hfr : Admits (.operand left op :: frames) (op.strength + 1) := fun left' op' rest he => by
      obtain ⟨hframe, _⟩ := List.cons.inj he
      cases hframe
      exact Nat.lt_succ_self _
    obtain ⟨frames₂, e₂, hread₂, hset₂⟩ := ihr hfr hback
    refine ⟨frames₂, e₂, ?_, fun k hk => ?_⟩
    · rw [readAll_append hread₁, readAll_cons (advance_operator hop frames₁ e₁), hleft, hread₂]
    · rw [hset₂ k (by omega), settle, if_pos (by omega)]

/-- The reader accepts the tokens of an expression, and reads that expression from them. -/
theorem parseTokens_eq_ok_iff {ts : List PlacedToken} {e : Expr} :
    parseTokens ts = .ok e ↔ Derives 0 (ts.map PlacedToken.token) e := by
  have hp : parseTokens ts = Reader.readAll ⟨[], none⟩ ts >>= Reader.finish := rfl
  constructor
  · intro h
    cases hr : Reader.readAll ⟨[], none⟩ ts with
    | error err => rw [hp, hr] at h; cases h
    | ok r =>
      rw [hp, hr] at h
      have hs : Stands r ([] ++ ts.map PlacedToken.token) := (Stands.wanting .nil).readAll hr
      exact hs.finish h
  · intro h
    have hnil : Admits [] 0 := fun left op rest he => by simp at he
    obtain ⟨frames, last, hread, hset⟩ := h.reads hnil rfl
    have hwhole : settle 0 last frames = (e, []) := by
      rw [hset 0 (Nat.le_refl 0), settle_of_admits hnil]
    rw [hp, hread]
    show Reader.finish ⟨frames, some last⟩ = .ok e
    simp only [Reader.finish, hwhole]

/-- Tokens spell at most one expression. -/
theorem Derives.unique {tokens : List Token} {e e' : Expr} (h : Derives 0 tokens e)
    (h' : Derives 0 tokens e') : e = e' := by
  let ts : List PlacedToken := tokens.map fun t => ⟨t, 0⟩
  have ht : ts.map PlacedToken.token = tokens := by simp [ts, Function.comp_def]
  have hp : parseTokens ts = .ok e := parseTokens_eq_ok_iff.mpr (ht ▸ h)
  have hp' : parseTokens ts = .ok e' := parseTokens_eq_ok_iff.mpr (ht ▸ h')
  exact Except.ok.inj (hp.symm.trans hp')

end GlyphAlgebra
