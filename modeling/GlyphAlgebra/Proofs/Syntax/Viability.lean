import GlyphAlgebra.Proofs.Syntax.Acceptance
import GlyphAlgebra.Proofs.Text.Literal
import GlyphAlgebra.Proofs.Text.Offset

namespace GlyphAlgebra

/-- Behind an operand only the open parentheses are missing. -/
theorem Opens.completed {frames : List Frame} {floor : Nat} {before own : List Token} {e : Expr}
    (h : Opens frames floor before) (he : Derives floor own e) :
    ∃ n, WellFormed (before ++ own ++ List.replicate n .closing) := by
  induction h generalizing own e with
  | nil => exact ⟨0, e, by simpa using he⟩
  | @group frames floor tokens h ih =>
    obtain ⟨n, hn⟩ := ih (.paren floor he)
    refine ⟨n + 1, ?_⟩
    simpa [List.replicate_succ] using hn
  | @operand frames floor tokens lefts left op h hle hl ih =>
    obtain ⟨n, hn⟩ := ih (.binary op hle hl he)
    exact ⟨n, by simpa using hn⟩

theorem isLiteral_letter : IsLiteral "A" :=
  ⟨'A', [], rfl, rfl, rfl, trivial⟩

/-- Whatever a reader has taken into account goes on to a whole expression. -/
theorem Stands.completed {r : Reader} {tokens : List Token} (h : Stands r tokens) :
    ∃ rest, (∀ text, .literal text ∈ rest → IsLiteral text) ∧ WellFormed (tokens ++ rest) := by
  cases h with
  | @wanting frames floor tokens h =>
    obtain ⟨n, hn⟩ := h.completed (.literal floor "A")
    refine ⟨.literal "A" :: List.replicate n .closing, fun text ht => ?_, by simpa using hn⟩
    have htext : text = "A" := by simpa using ht
    exact htext ▸ isLiteral_letter
  | @holding frames floor before own e h he =>
    obtain ⟨n, hn⟩ := h.completed (he floor)
    exact ⟨List.replicate n .closing, fun text ht => by simp at ht, hn⟩

theorem readAll_error {r : Reader} {ts : List PlacedToken} {err : SyntaxError}
    (h : r.readAll ts = .error err) :
    ∃ front t back r', ts = front ++ t :: back ∧ r.readAll front = .ok r' ∧
      r'.advance t = .error err := by
  induction ts generalizing r with
  | nil => cases h
  | cons t ts ih =>
    cases ha : r.advance t with
    | error err' =>
      rw [Reader.readAll, List.foldlM_cons, ha] at h
      cases h
      exact ⟨[], t, ts, r, rfl, rfl, ha⟩
    | ok next =>
      rw [readAll_cons ha] at h
      obtain ⟨front, u, back, r', rfl, hfront, hu⟩ := ih h
      exact ⟨t :: front, u, back, r', rfl, by rw [readAll_cons ha, hfront], hu⟩

/-- The reader gets through some tokens just when a whole expression begins with them. -/
theorem viable_iff_reads {ts : List PlacedToken} :
    Viable (ts.map PlacedToken.token) ↔ ∃ r, Reader.readAll ⟨[], none⟩ ts = .ok r := by
  constructor
  · rintro ⟨rest, e, he⟩
    let us : List PlacedToken := rest.map fun t => ⟨t, 0⟩
    have hus : us.map PlacedToken.token = rest := by simp [us, Function.comp_def]
    have hparse : parseTokens (ts ++ us) = .ok e := by
      rw [parseTokens_eq_ok_iff, List.map_append, hus]
      exact he
    cases hr : Reader.readAll ⟨[], none⟩ ts with
    | ok r => exact ⟨r, rfl⟩
    | error err =>
      have hts : ts.foldlM Reader.advance ⟨[], none⟩ = .error err := hr
      rw [parseTokens, List.foldlM_append, hts] at hparse
      cases hparse
  · rintro ⟨r, hr⟩
    have hs : Stands r ([] ++ ts.map PlacedToken.token) := (Stands.wanting .nil).readAll hr
    obtain ⟨rest, _, hrest⟩ := hs.completed
    exact ⟨rest, hrest⟩

theorem not_viable_of_advance_error {front : List PlacedToken} {t : PlacedToken} {r : Reader}
    {err : SyntaxError} (hr : Reader.readAll ⟨[], none⟩ front = .ok r)
    (ha : r.advance t = .error err) : ¬Viable (front.map PlacedToken.token ++ [t.token]) := by
  intro h
  have hmap : front.map PlacedToken.token ++ [t.token] = (front ++ [t]).map PlacedToken.token := by
    simp
  rw [hmap, viable_iff_reads] at h
  obtain ⟨r', hr'⟩ := h
  rw [readAll_append hr, Reader.readAll, List.foldlM_cons, ha] at hr'
  cases hr'

theorem advance_error_found {r : Reader} {t : PlacedToken} {err : SyntaxError}
    (h : r.advance t = .error err) : err.found = some t := by
  unfold Reader.advance at h
  split at h
  next => cases h
  next => cases h
  next => cases h; rfl
  next => cases h
  next =>
    split at h
    next => cases h
    next => cases h; rfl
  next => cases h; rfl

theorem finish_error_found {r : Reader} {err : SyntaxError} (h : r.finish = .error err) :
    err.found = none := by
  unfold Reader.finish at h
  split at h
  next => cases h; rfl
  next =>
    split at h
    next => cases h
    next => cases h; rfl

/-- Reading fails at a token, or else at the end. -/
theorem parseTokens_error {ts : List PlacedToken} {err : SyntaxError}
    (h : parseTokens ts = .error err) :
    (∃ front t back r, ts = front ++ t :: back ∧ Reader.readAll ⟨[], none⟩ front = .ok r ∧
      r.advance t = .error err) ∨
    ∃ r, Reader.readAll ⟨[], none⟩ ts = .ok r ∧ r.finish = .error err := by
  have hp : parseTokens ts = Reader.readAll ⟨[], none⟩ ts >>= Reader.finish := rfl
  rw [hp] at h
  cases hr : Reader.readAll ⟨[], none⟩ ts with
  | error err' =>
    rw [hr] at h
    cases h
    exact .inl (readAll_error hr)
  | ok r =>
    rw [hr] at h
    exact .inr ⟨r, rfl, h⟩

theorem parse_failure {text : String} {d : Diagnostic} (h : (parse text).failure = some d) :
    ∃ err, parseTokens (scan text) = .error err ∧ d = err.diagnostic text.toList := by
  unfold parse at h
  split at h
  next => cases h
  next err he => exact ⟨err, he, (Option.some.inj h).symm⟩

/-- A failure is reported where it shows first. What comes before goes on to a whole expression.
Either a token begins at the offset, and together with it there is none, or the failure is at the
end and the tokens are no expression so far. -/
theorem failure_at_first_offence {text : String} {d : Diagnostic}
    (h : (parse text).failure = some d) :
    (∃ rest, (∀ text, .literal text ∈ rest → IsLiteral text) ∧
      WellFormed (tokensBefore d.offset (scan text) ++ rest)) ∧
    (∀ t ∈ scan text, (t.offset : Int) = d.offset →
      ¬Viable (tokensBefore d.offset (scan text) ++ [t.token])) ∧
    ((∃ t ∈ scan text, (t.offset : Int) = d.offset) ∨
      (d.offset = text.length ∧
        tokensBefore d.offset (scan text) = (scan text).map PlacedToken.token ∧
        ¬WellFormed ((scan text).map PlacedToken.token))) := by
  obtain ⟨err, hparse, rfl⟩ := parse_failure h
  have hstands {ts : List PlacedToken} {r : Reader}
      (hr : Reader.readAll ⟨[], none⟩ ts = .ok r) : Stands r (ts.map PlacedToken.token) :=
    (Stands.wanting .nil).readAll hr
  rcases parseTokens_error hparse with ⟨front, t, back, r, hts, hr, ha⟩ | ⟨r, hr, hf⟩
  · have hoffset : (err.diagnostic text.toList).offset = t.offset := by
      simp [SyntaxError.diagnostic, SyntaxError.offset, advance_error_found ha]
    have ht : t ∈ scan text := by simp [hts]
    rw [hoffset, tokensBefore_placed hts]
    refine ⟨(hstands hr).completed, fun u hu hut => ?_, .inl ⟨t, ht, rfl⟩⟩
    rw [eq_of_offset_eq ht hu (Int.ofNat.inj hut)]
    exact not_viable_of_advance_error hr ha
  · have hoffset : (err.diagnostic text.toList).offset = text.length := by
      simp only [SyntaxError.diagnostic, SyntaxError.offset, finish_error_found hf,
        String.length_toList]
    rw [hoffset, tokensBefore_end]
    refine ⟨(hstands hr).completed, fun u hu hut => ?_, .inr ⟨rfl, rfl, ?_⟩⟩
    · obtain ⟨_, hpos, hle⟩ := scanFrom_within hu
      rw [String.length_toList] at hle
      omega
    · rintro ⟨e, he⟩
      rw [parseTokens_eq_ok_iff.mpr he] at hparse
      cases hparse

theorem failure_at_first_offence_closing :
    let before : List Token :=
      [.opening, .literal "A", .operator .add, .literal "B", .closing]
    ∃ d, (parse "(A+B))^C").failure = some d ∧ d.offset = 5 ∧
      (∃ rest, WellFormed (before ++ rest)) ∧ ¬Viable (before ++ [.closing]) := by
  intro before
  have hoffset : (parse "(A+B))^C").failure.map Diagnostic.offset = some 5 := by decide +kernel
  have hbefore : tokensBefore 5 (scan "(A+B))^C") = before := by decide +kernel
  have hmem : ⟨.closing, 5⟩ ∈ scan "(A+B))^C" := by decide +kernel
  obtain ⟨d, hd, hd5⟩ := Option.map_eq_some_iff.mp hoffset
  obtain ⟨⟨rest, _, hrest⟩, hstop, _⟩ := failure_at_first_offence hd
  rw [hd5, hbefore] at hrest hstop
  exact ⟨d, hd, hd5, ⟨rest, hrest⟩, hstop _ hmem rfl⟩

end GlyphAlgebra
