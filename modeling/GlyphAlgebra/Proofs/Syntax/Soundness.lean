import GlyphAlgebra.Grammar
import GlyphAlgebra.Reader

namespace GlyphAlgebra

/-- The tokens that open frames stand for. Operators below the given strength may not stand in
the operand that is wanted next, unless it is in parentheses. -/
inductive Opens : List Frame → Nat → List Token → Prop
  | nil : Opens [] 0 []
  | group {frames : List Frame} {floor : Nat} {tokens : List Token}
      (h : Opens frames floor tokens) : Opens (.group :: frames) 0 (tokens ++ [.opening])
  | operand {frames : List Frame} {floor : Nat} {tokens lefts : List Token} {left : Expr}
      (op : Operator) (h : Opens frames floor tokens) (hle : floor ≤ op.strength)
      (hl : Derives op.strength lefts left) :
      Opens (.operand left op :: frames) (op.strength + 1) (tokens ++ lefts ++ [.operator op])

/-- The tokens that a reader has taken into account. -/
inductive Stands : Reader → List Token → Prop
  | wanting {frames : List Frame} {floor : Nat} {tokens : List Token}
      (h : Opens frames floor tokens) : Stands ⟨frames, none⟩ tokens
  | holding {frames : List Frame} {floor : Nat} {before own : List Token} {e : Expr}
      (h : Opens frames floor before) (he : ∀ s, Derives s own e) :
      Stands ⟨frames, some e⟩ (before ++ own)

/-- Applying the waiting operators keeps what is read, and leaves only weaker ones waiting. -/
theorem Opens.settle {frames : List Frame} {floor : Nat} {before own : List Token} {e : Expr}
    (h : Opens frames floor before) (strength : Nat) (he : Derives floor own e)
    (hs : Derives strength own e) :
    ∃ floor' before' own', Opens (settle strength e frames).2 floor' before' ∧
      floor' ≤ strength ∧ Derives strength own' (settle strength e frames).1 ∧
      before' ++ own' = before ++ own := by
  induction h generalizing own e with
  | nil => exact ⟨0, [], own, .nil, Nat.zero_le _, hs, rfl⟩
  | group h => exact ⟨0, _, own, .group h, Nat.zero_le _, hs, rfl⟩
  | @operand frames floor tokens lefts left op h hle hl ih =>
    by_cases hop : strength ≤ op.strength
    · have hb : Derives floor (lefts ++ .operator op :: own) (.binary op left e) :=
        .binary op hle hl he
      obtain ⟨floor', before', own', ho, hf, hd, heq⟩ := ih hb (.binary op hop hl he)
      rw [GlyphAlgebra.settle, if_pos hop]
      exact ⟨floor', before', own', ho, hf, hd, by simp [heq]⟩
    · rw [GlyphAlgebra.settle, if_neg hop]
      exact ⟨_, _, own, .operand op h hle hl, by omega, hs, rfl⟩

theorem advance_literal {t : PlacedToken} {text : String} (ht : t.token = .literal text)
    (frames : List Frame) :
    Reader.advance ⟨frames, none⟩ t = .ok ⟨frames, some (.literal text)⟩ := by
  simp only [Reader.advance, ht]

theorem advance_opening {t : PlacedToken} (ht : t.token = .opening) (frames : List Frame) :
    Reader.advance ⟨frames, none⟩ t = .ok ⟨.group :: frames, none⟩ := by
  simp only [Reader.advance, ht]

theorem advance_operator {t : PlacedToken} {op : Operator} (ht : t.token = .operator op)
    (frames : List Frame) (e : Expr) :
    Reader.advance ⟨frames, some e⟩ t =
      .ok ⟨.operand (settle op.strength e frames).1 op :: (settle op.strength e frames).2, none⟩ := by
  simp only [Reader.advance, ht]

theorem advance_closing {t : PlacedToken} (ht : t.token = .closing) {frames rest : List Frame}
    {e inner : Expr} (hs : settle 0 e frames = (inner, .group :: rest)) :
    Reader.advance ⟨frames, some e⟩ t = .ok ⟨rest, some (.paren inner)⟩ := by
  simp only [Reader.advance, ht, hs]

/-- One more token keeps what the reader stands for. -/
theorem Stands.advance {r r' : Reader} {tokens : List Token} {t : PlacedToken}
    (h : Stands r tokens) (ha : r.advance t = .ok r') : Stands r' (tokens ++ [t.token]) := by
  cases h with
  | wanting h =>
    cases ht : t.token with
    | literal text =>
      rw [advance_literal ht] at ha
      cases ha
      exact .holding h fun s => .literal s text
    | opening =>
      rw [advance_opening ht] at ha
      cases ha
      exact .wanting (.group h)
    | closing => simp [Reader.advance, ht] at ha
    | operator op => simp [Reader.advance, ht] at ha
  | @holding frames floor before own e h he =>
    cases ht : t.token with
    | literal text => simp [Reader.advance, ht] at ha
    | opening => simp [Reader.advance, ht] at ha
    | closing =>
      obtain ⟨floor', before', own', ho, _, hd, heq⟩ := h.settle 0 (he floor) (he 0)
      simp only [Reader.advance, ht] at ha
      split at ha
      next inner frames' hset =>
        rw [hset] at ho hd
        cases ha
        cases ho with
        | group ho =>
          rw [← heq]
          simpa using Stands.holding ho fun s => .paren s hd
      next => simp at ha
    | operator op =>
      obtain ⟨floor', before', own', ho, hf, hd, heq⟩ :=
        h.settle op.strength (he floor) (he op.strength)
      rw [advance_operator ht] at ha
      cases ha
      rw [← heq]
      exact .wanting (.operand op ho hf hd)

def Reader.readAll (r : Reader) (ts : List PlacedToken) : Except SyntaxError Reader :=
  ts.foldlM Reader.advance r

theorem readAll_cons {r r' : Reader} {t : PlacedToken} (ha : r.advance t = .ok r')
    (ts : List PlacedToken) : r.readAll (t :: ts) = r'.readAll ts := by
  rw [Reader.readAll, List.foldlM_cons, ha]
  rfl

theorem readAll_append {r r' : Reader} {ts : List PlacedToken} (h : r.readAll ts = .ok r')
    (us : List PlacedToken) : r.readAll (ts ++ us) = r'.readAll us := by
  have hts : ts.foldlM Reader.advance r = .ok r' := h
  rw [Reader.readAll, List.foldlM_append, hts]
  rfl

theorem Stands.readAll {r r' : Reader} {tokens : List Token} {ts : List PlacedToken}
    (h : Stands r tokens) (hr : r.readAll ts = .ok r') :
    Stands r' (tokens ++ ts.map PlacedToken.token) := by
  induction ts generalizing r tokens with
  | nil =>
    cases hr
    simpa using h
  | cons t ts ih =>
    cases ha : r.advance t with
    | error e =>
      rw [Reader.readAll, List.foldlM_cons, ha] at hr
      cases hr
    | ok next =>
      rw [readAll_cons ha] at hr
      simpa using ih (h.advance ha) hr

theorem Stands.finish {r : Reader} {tokens : List Token} {e : Expr}
    (h : Stands r tokens) (hf : r.finish = .ok e) : Derives 0 tokens e := by
  cases h with
  | wanting h => simp [Reader.finish] at hf
  | @holding frames floor before own last h he =>
    obtain ⟨floor', before', own', ho, _, hd, heq⟩ := h.settle 0 (he floor) (he 0)
    simp only [Reader.finish] at hf
    split at hf
    next whole hset =>
      rw [hset] at ho hd
      cases hf
      cases ho
      rw [← heq]
      exact hd
    next => simp at hf

end GlyphAlgebra
