import GlyphAlgebra.Proofs.Syntax.Expected
import GlyphAlgebra.Proofs.Text.Widening

namespace GlyphAlgebra

def SyntaxError.move (f : Nat → Nat) (e : SyntaxError) : SyntaxError :=
  ⟨e.found.map (.move f), e.expectation⟩

/-- The reader does not look at the places of the tokens, and only gives one back. -/
theorem advance_move (f : Nat → Nat) (r : Reader) (t : PlacedToken) :
    r.advance (t.move f) = (r.advance t).mapError (.move f) := by
  obtain ⟨frames, current⟩ := r
  obtain ⟨token, offset⟩ := t
  cases current with
  | none => cases token <;> rfl
  | some e =>
    cases token with
    | closing =>
      simp only [Reader.advance, PlacedToken.move]
      split <;> rfl
    | _ => rfl

theorem readAll_move (f : Nat → Nat) (r : Reader) (ts : List PlacedToken) :
    r.readAll (ts.map (.move f)) = (r.readAll ts).mapError (.move f) := by
  induction ts generalizing r with
  | nil => rfl
  | cons t ts ih =>
    have ha := advance_move f r t
    rw [List.map_cons]
    cases hr : r.advance t with
    | error err =>
      rw [hr] at ha
      simp only [Reader.readAll, List.foldlM_cons, ha, hr]
      rfl
    | ok next =>
      rw [hr] at ha
      rw [readAll_cons ha, readAll_cons hr]
      exact ih next

theorem parseTokens_move (f : Nat → Nat) (ts : List PlacedToken) :
    parseTokens (ts.map (.move f)) = (parseTokens ts).mapError (.move f) := by
  have hp (ts : List PlacedToken) :
      parseTokens ts = Reader.readAll ⟨[], none⟩ ts >>= Reader.finish := rfl
  rw [hp, hp, readAll_move]
  cases Reader.readAll ⟨[], none⟩ ts with
  | error err => rfl
  | ok r =>
    show r.finish = r.finish.mapError (.move f)
    cases hf : r.finish with
    | ok e => rfl
    | error err =>
      have hfound : err.found = none := finish_error_found hf
      have hmove : err.move f = err := by
        rw [SyntaxError.move, hfound]
        exact congrArg (SyntaxError.mk · err.expectation) hfound.symm
      exact congrArg Except.error hmove.symm

theorem failure_of_parseTokens {text : String} {err : SyntaxError}
    (h : parseTokens (scan text) = .error err) :
    (parse text).failure = some (err.diagnostic text.toList) := by
  unfold parse
  rw [h]

/-- White space between tokens does not count. Where it is put in, be it in front, between two
tokens, beside other white space or at the end, the text has the same tokens at their new places.
It is read as the same expression, or it fails at the same token, or again at the end, and the same
tokens are expected there. -/
theorem parse_widen {text : String} (s : Spacing) (hspares : s.Spares (scan text))
    (hprepend : ∀ t ∈ scan text, ∀ l, t.token = .literal l → endsInPrepend l = false) :
    scan (s.widen text) = (scan text).map (.move s.moved) ∧
    (∀ e, (parse text).expression = some e → (parse (s.widen text)).expression = some e) ∧
    ∀ d, (parse text).failure = some d → ∃ d', (parse (s.widen text)).failure = some d' ∧
      d'.expected = d.expected ∧
      ((∃ t ∈ scan text, d.offset = t.offset ∧ d'.offset = s.moved t.offset) ∨
        (¬StopsAtToken text d ∧ d.offset = text.length ∧
          ¬StopsAtToken (s.widen text) d' ∧ d'.offset = (s.widen text).length)) := by
  have hscan := s.scan_widen hspares hprepend
  have hparse := parseTokens_move s.moved (scan text)
  rw [← hscan] at hparse
  refine ⟨hscan, ?_, ?_⟩
  · intro e h
    have hd := parse_eq_some_iff.mp (parse_eq_some_of_expression h)
    have htokens : (scan (s.widen text)).map PlacedToken.token =
        (scan text).map PlacedToken.token := by
      rw [hscan, List.map_map]
      rfl
    rw [parse_eq_some_iff.mpr (htokens ▸ hd)]
  · intro d h
    obtain ⟨err, herr, rfl⟩ := parse_failure h
    rw [herr] at hparse
    refine ⟨_, failure_of_parseTokens hparse, rfl, ?_⟩
    rcases parseTokens_error herr with ⟨front, t, back, r, hts, _, ha⟩ | ⟨r, _, hf⟩
    · have hfound := advance_error_found ha
      refine .inl ⟨t, by simp [hts], ?_, ?_⟩
      · simp [SyntaxError.diagnostic, SyntaxError.offset, hfound]
      · simp [SyntaxError.diagnostic, SyntaxError.offset, SyntaxError.move, hfound,
          PlacedToken.move]
    · have hfound := finish_error_found hf
      have hfound' : (err.move s.moved).found = none := by
        rw [SyntaxError.move, hfound]
        rfl
      exact .inr ⟨not_stopsAtToken hfound, diagnostic_at_end hfound,
        not_stopsAtToken hfound', diagnostic_at_end hfound'⟩

/-- A return and a blank go before every token but the bars, and behind the last one. -/
def wideSpacing : Spacing where
  runs place := if place = 1 ∨ place = 2 then [] else ['\r', ' ']
  blank place := by
    split
    · simp
    · exact List.all_eq_true.mp (by decide)

theorem parse_widen_bars :
    let text := "A||\u0301)"
    let wide := "\r A||\r \u0301\r )\r "
    wideSpacing.Spares (scan text) ∧ wideSpacing.widen text = wide ∧
      (∃ d, (parse text).failure = some d ∧ d.offset = 4) ∧
      ∃ d', (parse wide).failure = some d' ∧ d'.offset = 10 ∧
        d'.expected = ["'||'", "end of input"] := by
  intro text wide
  have hwide : wideSpacing.widen text = wide := by decide +kernel
  have hscan : scan text = [⟨.literal "A", 0⟩, ⟨.operator .concat, 1⟩,
      ⟨.literal "\u0301", 3⟩, ⟨.closing, 4⟩] := by decide +kernel
  have hfailure : (parse text).failure.map (fun d => (d.offset, d.expected)) =
      some (4, ["'||'", "end of input"]) := by decide +kernel
  have hlength : ∀ t ∈ scan text,
      t.token.text.length = 1 ∨ t.offset = 1 ∧ t.token.text.length = 2 := by
    rw [hscan]
    decide
  have hspares : wideSpacing.Spares (scan text) := by
    intro t ht place hlow hhigh
    have hplace : place = 2 := by
      have := hlength t ht
      omega
    rw [hplace]
    rfl
  have hprepend : ∀ t ∈ scan text, ∀ l, t.token = .literal l → endsInPrepend l = false := by
    rw [hscan]
    intro t ht l hl
    simp only [List.mem_cons, List.not_mem_nil, or_false] at ht
    rcases ht with rfl | rfl | rfl | rfl <;> cases hl <;> decide
  obtain ⟨d, hd, hparts⟩ := Option.map_eq_some_iff.mp hfailure
  obtain ⟨hoffset, hexpected⟩ := Prod.mk.inj hparts
  obtain ⟨-, -, hmoved⟩ := parse_widen wideSpacing hspares hprepend
  obtain ⟨d', hd', hexpected', hwhere⟩ := hmoved d hd
  rw [hwide] at hd' hwhere
  refine ⟨hspares, hwide, ⟨d, hd, hoffset⟩, d', hd', ?_, hexpected'.trans hexpected⟩
  rcases hwhere with ⟨t, -, ht, hmove⟩ | ⟨-, hend, -⟩
  · have hplace : t.offset = 4 := by omega
    rw [hmove, hplace]
    rfl
  · rw [hoffset] at hend
    exact absurd hend (by decide)

end GlyphAlgebra
