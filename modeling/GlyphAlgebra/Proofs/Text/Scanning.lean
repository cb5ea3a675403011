import GlyphAlgebra.Proofs.Text.Cluster
import GlyphAlgebra.Token

namespace GlyphAlgebra

/-- The tokens that a text consists of. White space separates them, a pair of bars is one token,
and a literal is the whole cluster of a character that is neither white space nor a symbol. -/
inductive Scans : List Char → List Token → Prop
  | nil : Scans [] []
  | spacing {c : Char} {cs : List Char} {tokens : List Token} (hc : isSpacing c = true)
      (h : Scans cs tokens) : Scans (c :: cs) tokens
  | bars {cs : List Char} {tokens : List Token} (h : Scans cs tokens) :
      Scans ('|' :: '|' :: cs) (.operator .concat :: tokens)
  | symbol {c : Char} {t : Token} {cs : List Char} {tokens : List Token}
      (hc : symbolToken? c = some t) (hb : c = '|' → cs.head? ≠ some '|')
      (h : Scans cs tokens) : Scans (c :: cs) (t :: tokens)
  | literal {c : Char} {tail rest : List Char} {tokens : List Token}
      (hs : isSpacing c = false) (hc : symbolToken? c = none) (hl : Cluster c tail rest)
      (h : Scans rest tokens) :
      Scans (c :: (tail ++ rest)) (.literal (String.ofList (c :: tail)) :: tokens)

theorem symbol_not_spacing {c : Char} {t : Token} (h : symbolToken? c = some t) :
    isSpacing c = false := by
  unfold symbolToken? at h
  split at h <;> first | decide | simp at h

theorem symbolToken?_bar {c : Char} (h : symbolToken? c = some (.operator .or)) : c = '|' := by
  unfold symbolToken? at h
  split at h <;> simp at h ⊢

theorem nextToken_symbol {c : Char} {t : Token} {cs : List Char} (hc : symbolToken? c = some t)
    (hb : c = '|' → cs.head? ≠ some '|') : nextToken c cs = (t, cs) := by
  unfold nextToken
  split
  next rest ho =>
    have hbar := symbolToken?_bar ho
    exact absurd rfl (hb hbar)
  next t' ht _ => rw [hc] at ht; cases ht; rfl
  next hn => rw [hc] at hn; cases hn

theorem nextToken_literal {c : Char} {tail rest : List Char} (hc : symbolToken? c = none)
    (hl : Cluster c tail rest) :
    nextToken c (tail ++ rest) = (.literal (String.ofList (c :: tail)), rest) := by
  have hs : splitCluster c (tail ++ rest) = (c :: tail, rest) :=
    splitCluster_eq_iff.mpr ⟨rfl, hl⟩
  simp [nextToken, hc, hs]

/-- A text has at most one division into tokens, and the scanner finds it. -/
theorem scanFrom_of_scans {cs : List Char} {tokens : List Token} (h : Scans cs tokens)
    (offset : Nat) : (scanFrom offset cs).map PlacedToken.token = tokens := by
  induction h generalizing offset with
  | nil => simp [scanFrom]
  | @spacing c cs tokens hc _ ih =>
    rw [scanFrom, if_pos hc]
    exact ih (offset + 1)
  | @bars cs tokens _ ih =>
    have hs : isSpacing '|' = false := by decide
    have hn : nextToken '|' ('|' :: cs) = (.operator .concat, cs) := rfl
    rw [scanFrom, if_neg (by simp [hs]), List.map_cons, hn, ih]
  | @symbol c t cs tokens hc hb _ ih =>
    have hs := symbol_not_spacing hc
    rw [scanFrom, if_neg (by simp [hs]), List.map_cons, nextToken_symbol hc hb, ih]
  | @literal c tail rest tokens hs hc hl _ ih =>
    rw [scanFrom, if_neg (by simp [hs]), List.map_cons, nextToken_literal hc hl, ih]

theorem scans_scanFrom (offset : Nat) (cs : List Char) :
    Scans cs ((scanFrom offset cs).map PlacedToken.token) := by
  induction hn : cs.length using Nat.strongRecOn generalizing cs offset with
  | _ n ih =>
    subst hn
    cases cs with
    | nil => simpa [scanFrom] using Scans.nil
    | cons c cs =>
      have hlt := nextToken_rest_length c cs
      have hrest (o : Nat) := ih _ (Nat.lt_succ_of_le hlt) o (nextToken c cs).2 rfl
      rw [scanFrom]
      by_cases hs : isSpacing c = true
      · rw [if_pos hs]
        exact .spacing hs (ih cs.length (Nat.lt_succ_self _) (offset + 1) cs rfl)
      · rw [if_neg hs, List.map_cons]
        have hs' : isSpacing c = false := by simpa using hs
        cases hc : symbolToken? c with
        | none =>
          obtain ⟨tail, rest, _, rfl, hl⟩ := splitCluster_cluster c cs
          rw [nextToken_literal hc hl] at hrest ⊢
          exact .literal hs' hc hl (hrest _)
        | some t =>
          by_cases hb : c = '|' ∧ cs.head? = some '|'
          · obtain ⟨rfl, hhead⟩ := hb
            obtain ⟨rest, rfl⟩ := List.head?_eq_some_iff.mp hhead
            exact .bars (hrest _)
          · have hb' : c = '|' → cs.head? ≠ some '|' := fun h1 h2 => hb ⟨h1, h2⟩
            rw [nextToken_symbol hc hb'] at hrest ⊢
            exact .symbol hc hb' (hrest _)

theorem scans_iff {cs : List Char} {tokens : List Token} :
    Scans cs tokens ↔ (scanFrom 0 cs).map PlacedToken.token = tokens :=
  ⟨fun h => scanFrom_of_scans h 0, fun h => h ▸ scans_scanFrom 0 cs⟩

theorem Scans.unique {cs : List Char} {tokens tokens' : List Token} (h : Scans cs tokens)
    (h' : Scans cs tokens') : tokens = tokens' :=
  (scans_iff.mp h).symm.trans (scans_iff.mp h')

theorem exists_scans (cs : List Char) : ∃ tokens, Scans cs tokens :=
  ⟨_, scans_scanFrom 0 cs⟩

/-- A rule that puts tokens in front, whatever tokens follow, leaves nothing else to come. -/
theorem scans_front_iff {cs rest : List Char} (front : List Token)
    (hrule : ∀ tokens, Scans rest tokens → Scans cs (front ++ tokens)) {tokens : List Token} :
    Scans cs (front ++ tokens) ↔ Scans rest tokens := by
  constructor
  · intro h
    obtain ⟨found, hfound⟩ := exists_scans rest
    have heq := h.unique (hrule found hfound)
    rw [List.append_cancel_left heq]
    exact hfound
  · exact hrule tokens

theorem scans_spacing_iff {c : Char} {cs : List Char} {tokens : List Token}
    (hc : isSpacing c = true) : Scans (c :: cs) tokens ↔ Scans cs tokens :=
  scans_front_iff [] fun _ => .spacing hc

theorem scans_symbol_iff {c : Char} {t : Token} {cs : List Char} {tokens : List Token}
    (hc : symbolToken? c = some t) (hb : c = '|' → cs.head? ≠ some '|') :
    Scans (c :: cs) (t :: tokens) ↔ Scans cs tokens :=
  scans_front_iff [t] fun _ => .symbol hc hb

theorem scans_bars_iff {cs : List Char} {tokens : List Token} :
    Scans ('|' :: '|' :: cs) (.operator .concat :: tokens) ↔ Scans cs tokens :=
  scans_front_iff [.operator .concat] fun _ => .bars

theorem scans_literal_iff {c : Char} {tail rest : List Char} {tokens : List Token}
    (hs : isSpacing c = false) (hc : symbolToken? c = none) :
    Scans (c :: (tail ++ rest)) (.literal (String.ofList (c :: tail)) :: tokens) ↔
      Cluster c tail rest ∧ Scans rest tokens := by
  constructor
  · intro h
    obtain ⟨tail', rest', _, happ, hl⟩ := splitCluster_cluster c (tail ++ rest)
    obtain ⟨found, hfound⟩ := exists_scans rest'
    rw [happ] at h
    have heq := h.unique (.literal hs hc hl hfound)
    simp only [List.cons.injEq, Token.literal.injEq, String.ofList_inj, true_and] at heq
    obtain ⟨rfl, rfl⟩ := heq
    have hrest := List.append_cancel_left happ
    subst hrest
    exact ⟨hl, hfound⟩
  · rintro ⟨hl, h⟩
    exact .literal hs hc hl h

end GlyphAlgebra
