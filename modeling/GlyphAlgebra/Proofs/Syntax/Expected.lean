import GlyphAlgebra.Proofs.Syntax.Viability

namespace GlyphAlgebra

/-- The last token ends an operand, so that an operator may follow. -/
def endsOperand (tokens : List Token) : Bool :=
  match tokens.getLast? with
  | some .closing | some (.literal _) => true
  | _ => false

/-- Some parenthesis is open behind the tokens. -/
def Unclosed (tokens : List Token) : Prop :=
  tokens.count .closing < tokens.count .opening

instance (tokens : List Token) : Decidable (Unclosed tokens) :=
  inferInstanceAs (Decidable (_ < _))

theorem Derives.count_closing {s : Nat} {tokens : List Token} {e : Expr}
    (h : Derives s tokens e) : tokens.count .closing = tokens.count .opening := by
  induction h with
  | literal => simp
  | paren _ _ ih => simp [ih]
  | binary _ _ _ _ ihl ihr => simp [ihl, ihr]

/-- What is taken as an operand of every strength is a literal or in parentheses. -/
theorem endsOperand_append {tokens own : List Token} {e : Expr} (h : ∀ s, Derives s own e) :
    endsOperand (tokens ++ own) = true := by
  cases h 4 with
  | literal _ text => rw [endsOperand, List.getLast?_concat]
  | paren => rw [endsOperand, ← List.append_assoc, List.getLast?_concat]
  | binary op hle =>
    cases op <;> exact absurd hle (by decide)

theorem Opens.endsOperand_eq {frames : List Frame} {floor : Nat} {tokens : List Token}
    (h : Opens frames floor tokens) : endsOperand tokens = false := by
  cases h <;> simp [endsOperand]

theorem Opens.count_opening {frames : List Frame} {floor : Nat} {tokens : List Token}
    (h : Opens frames floor tokens) :
    tokens.count .opening = tokens.count .closing + frames.count .group := by
  induction h with
  | nil => rfl
  | group _ ih => simp [ih]; omega
  | operand op _ _ hl ih => simp [ih, hl.count_closing]; omega

theorem Stands.endsOperand_eq {r : Reader} {tokens : List Token} (h : Stands r tokens) :
    endsOperand tokens = r.current.isSome := by
  cases h with
  | wanting h => exact h.endsOperand_eq
  | holding _ he => exact endsOperand_append he

theorem Stands.unclosed_iff {r : Reader} {tokens : List Token} (h : Stands r tokens) :
    Unclosed tokens ↔ .group ∈ r.frames := by
  have hcount : tokens.count .opening = tokens.count .closing + r.frames.count .group := by
    cases h with
    | wanting h => exact h.count_opening
    | holding h he =>
      have hown := (he 0).count_closing
      simp only [List.count_append, h.count_opening]
      omega
  rw [Unclosed, hcount, ← List.count_pos_iff]
  omega

/-- Applying all that waits stops at the innermost open parenthesis, if there is one. -/
theorem settle_cases (frames : List Frame) (e : Expr) :
    (.group ∈ frames ∧ ∃ inner rest, settle 0 e frames = (inner, .group :: rest)) ∨
      (.group ∉ frames ∧ ∃ whole, settle 0 e frames = (whole, [])) := by
  induction frames generalizing e with
  | nil => exact .inr ⟨List.not_mem_nil, e, rfl⟩
  | cons frame frames ih =>
    cases frame with
    | group => exact .inl ⟨List.mem_cons_self .., e, frames, rfl⟩
    | operand left op =>
      rw [settle, if_pos (Nat.zero_le _)]
      simpa using ih _

theorem wanting_advances_iff {frames : List Frame} {t : PlacedToken} :
    (∃ r, Reader.advance ⟨frames, none⟩ t = .ok r) ↔
      t.token = .opening ∨ ∃ text, t.token = .literal text := by
  cases ht : t.token <;> simp [Reader.advance, ht]

theorem holding_advances_iff {frames : List Frame} {e : Expr} {t : PlacedToken} :
    (∃ r, Reader.advance ⟨frames, some e⟩ t = .ok r) ↔
      (∃ op, t.token = .operator op) ∨ (t.token = .closing ∧ .group ∈ frames) := by
  cases ht : t.token with
  | literal text => simp [Reader.advance, ht]
  | opening => simp [Reader.advance, ht]
  | operator op => simp [Reader.advance, ht]
  | closing =>
    rcases settle_cases frames e with ⟨hg, inner, rest, hs⟩ | ⟨hg, whole, hs⟩ <;>
      simp [Reader.advance, ht, hs, hg]

theorem finishes_iff {r : Reader} :
    (∃ e, r.finish = .ok e) ↔ r.current.isSome ∧ .group ∉ r.frames := by
  obtain ⟨frames, current⟩ := r
  cases current with
  | none => simp [Reader.finish]
  | some e =>
    rcases settle_cases frames e with ⟨hg, inner, rest, hs⟩ | ⟨hg, whole, hs⟩ <;>
      simp [Reader.finish, hs, hg]

theorem stands_of_readAll {ts : List PlacedToken} {r : Reader}
    (hr : Reader.readAll ⟨[], none⟩ ts = .ok r) : Stands r (ts.map PlacedToken.token) :=
  (Stands.wanting .nil).readAll hr

theorem viable_next_iff {ts : List PlacedToken} {r : Reader}
    (hr : Reader.readAll ⟨[], none⟩ ts = .ok r) (t : PlacedToken) :
    Viable (ts.map PlacedToken.token ++ [t.token]) ↔ ∃ next, r.advance t = .ok next := by
  have hmap : ts.map PlacedToken.token ++ [t.token] = (ts ++ [t]).map PlacedToken.token := by simp
  rw [hmap, viable_iff_reads, readAll_append hr, Reader.readAll]
  simp only [List.foldlM_cons, List.foldlM_nil, bind_pure]

theorem wellFormed_iff_finishes {ts : List PlacedToken} {r : Reader}
    (hr : Reader.readAll ⟨[], none⟩ ts = .ok r) :
    WellFormed (ts.map PlacedToken.token) ↔ ∃ e, r.finish = .ok e := by
  have hparse : parseTokens ts = r.finish := by
    show Reader.readAll ⟨[], none⟩ ts >>= Reader.finish = r.finish
    rw [hr]
    rfl
  simp only [WellFormed, ← parseTokens_eq_ok_iff, hparse]

/-- What may come behind the beginning of an expression depends on its last token and on whether a
parenthesis is open. -/
theorem continuations {ts : List PlacedToken} {r : Reader}
    (hr : Reader.readAll ⟨[], none⟩ ts = .ok r) :
    (WellFormed (ts.map PlacedToken.token) ↔
      endsOperand (ts.map PlacedToken.token) = true ∧ ¬Unclosed (ts.map PlacedToken.token)) ∧
    ∀ t, Viable (ts.map PlacedToken.token ++ [t]) ↔
      if endsOperand (ts.map PlacedToken.token) then
        (∃ op, t = .operator op) ∨ (t = .closing ∧ Unclosed (ts.map PlacedToken.token))
      else t = .opening ∨ ∃ text, t = .literal text := by
  have hs := stands_of_readAll hr
  rw [wellFormed_iff_finishes hr, finishes_iff, hs.unclosed_iff, hs.endsOperand_eq]
  refine ⟨Iff.rfl, fun t => ?_⟩
  have hnext := viable_next_iff hr ⟨t, 0⟩
  obtain ⟨frames, current⟩ := r
  cases current with
  | none => rw [hnext, wanting_advances_iff]; simp
  | some e => rw [hnext, holding_advances_iff]; simp

/-- The reader refuses a token for one of three reasons. -/
theorem advance_refused {r : Reader} {t : PlacedToken} {err : SyntaxError}
    (h : r.advance t = .error err) :
    (r.current = none ∧ err.expectation = .operand) ∨
      (r.current.isSome ∧ err.expectation = .continuation) ∨
      (r.current.isSome ∧ .group ∉ r.frames ∧ err.expectation = .ending) := by
  obtain ⟨frames, current⟩ := r
  cases current with
  | none =>
    cases ht : t.token <;> simp [Reader.advance, ht] at h <;> simp [← h]
  | some e =>
    cases ht : t.token with
    | literal text => simp [Reader.advance, ht] at h; simp [← h]
    | opening => simp [Reader.advance, ht] at h; simp [← h]
    | operator op => simp [Reader.advance, ht] at h
    | closing =>
      rcases settle_cases frames e with ⟨hg, inner, rest, hs⟩ | ⟨hg, whole, hs⟩
      · simp [Reader.advance, ht, hs] at h
      · simp [Reader.advance, ht, hs] at h
        simp [← h, hg]

theorem finish_refused {r : Reader} {err : SyntaxError} (h : r.finish = .error err) :
    (r.current = none ∧ err.expectation = .operand) ∨
      (r.current.isSome ∧ .group ∈ r.frames ∧ err.expectation = .closing) := by
  obtain ⟨frames, current⟩ := r
  cases current with
  | none => cases h; exact .inl ⟨rfl, rfl⟩
  | some e =>
    rcases settle_cases frames e with ⟨hg, inner, rest, hs⟩ | ⟨hg, whole, hs⟩
    · simp [Reader.finish, hs] at h
      simp [← h, hg]
    · simp [Reader.finish, hs] at h

/-- How a token is named where it is listed as expected. -/
def Token.description : Token → String
  | literal _ => "a character"
  | opening => "'('"
  | closing => "')'"
  | operator op => s!"'{op.symbol}'"

def endDescription : String := "end of input"

/-- A list names what may come behind some tokens, and nothing else. -/
def ListsContinuations (listed : List String) (before : List Token) : Prop :=
  (∀ t : Token, t.description ∈ listed ↔ Viable (before ++ [t])) ∧
    (endDescription ∈ listed ↔ WellFormed before)

/-- A failure stands at a token, and not at the end of the text. -/
def StopsAtToken (text : String) (d : Diagnostic) : Prop :=
  ∃ t ∈ scan text, (t.offset : Int) = d.offset

theorem diagnostic_at_end {text : String} {err : SyntaxError} (h : err.found = none) :
    (err.diagnostic text.toList).offset = text.length := by
  simp only [SyntaxError.diagnostic, SyntaxError.offset, h, String.length_toList]

theorem not_stopsAtToken {text : String} {err : SyntaxError} (h : err.found = none) :
    ¬StopsAtToken text (err.diagnostic text.toList) := by
  rintro ⟨t, ht, hoffset⟩
  obtain ⟨_, hpos, hle⟩ := scanFrom_within ht
  rw [diagnostic_at_end h] at hoffset
  rw [String.length_toList] at hle
  omega

/-- What a failure lists depends on where it stands. -/
theorem failure_expectation {text : String} {d : Diagnostic}
    (h : (parse text).failure = some d) :
    ∃ ts r x, Reader.readAll ⟨[], none⟩ ts = .ok r ∧
      tokensBefore d.offset (scan text) = ts.map PlacedToken.token ∧
      d.expected = Expectation.describe x ∧
      ((endsOperand (ts.map PlacedToken.token) = false ∧ x = .operand) ∨
        (endsOperand (ts.map PlacedToken.token) = true ∧ StopsAtToken text d ∧
          x = .continuation) ∨
        (endsOperand (ts.map PlacedToken.token) = true ∧ ¬Unclosed (ts.map PlacedToken.token) ∧
          x = .ending) ∨
        (endsOperand (ts.map PlacedToken.token) = true ∧ Unclosed (ts.map PlacedToken.token) ∧
          ¬StopsAtToken text d ∧ x = .closing)) := by
  obtain ⟨err, hparse, rfl⟩ := parse_failure h
  rcases parseTokens_error hparse with ⟨front, t, back, r, hts, hr, ha⟩ | ⟨r, hr, hf⟩
  · have hoffset : (err.diagnostic text.toList).offset = t.offset := by
      simp [SyntaxError.diagnostic, SyntaxError.offset, advance_error_found ha]
    have hstops : StopsAtToken text (err.diagnostic text.toList) :=
      ⟨t, by simp [hts], hoffset.symm⟩
    refine ⟨front, r, err.expectation, hr, by rw [hoffset, tokensBefore_placed hts], rfl, ?_⟩
    rw [(stands_of_readAll hr).endsOperand_eq, (stands_of_readAll hr).unclosed_iff]
    rcases advance_refused ha with ⟨hc, hx⟩ | ⟨hc, hx⟩ | ⟨hc, hg, hx⟩
    · exact .inl ⟨by rw [hc]; rfl, hx⟩
    · exact .inr (.inl ⟨hc, hstops, hx⟩)
    · exact .inr (.inr (.inl ⟨hc, hg, hx⟩))
  · have hfound := finish_error_found hf
    have hoffset : (err.diagnostic text.toList).offset = text.length := diagnostic_at_end hfound
    have hstops : ¬StopsAtToken text (err.diagnostic text.toList) := not_stopsAtToken hfound
    refine ⟨scan text, r, err.expectation, hr, by rw [hoffset, tokensBefore_end], rfl, ?_⟩
    rw [(stands_of_readAll hr).endsOperand_eq, (stands_of_readAll hr).unclosed_iff]
    rcases finish_refused hf with ⟨hc, hx⟩ | ⟨hc, hg, hx⟩
    · exact .inl ⟨by rw [hc]; rfl, hx⟩
    · exact .inr (.inr (.inr ⟨hc, hg, hstops, hx⟩))

theorem mem_describe_iff (x : Expectation) (t : Token) :
    t.description ∈ x.describe ↔
      match x with
      | .operand => t = .opening ∨ ∃ text, t = .literal text
      | .continuation => t = .closing ∨ ∃ op, t = .operator op
      | .closing => t = .closing ∨ t = .operator .concat
      | .ending => t = .operator .concat := by
  cases t with
  | literal text => cases x <;> simp [Token.description, Expectation.describe]
  | opening => cases x <;> simp [Token.description, Expectation.describe]
  | closing => cases x <;> simp [Token.description, Expectation.describe]
  | operator op =>
    cases x <;> simp only [reduceCtorEq, false_or, exists_false, Token.operator.injEq, exists_eq',
      iff_true, iff_false] <;> cases op <;> decide

theorem end_mem_describe_iff (x : Expectation) : endDescription ∈ x.describe ↔ x = .ending := by
  cases x <;> decide

theorem describe_named (x : Expectation) :
    ∀ name ∈ x.describe, name = endDescription ∨ ∃ t : Token, name = t.description := by
  have hop (op : Operator) : ∃ t : Token, s!"'{op.symbol}'" = t.description := ⟨.operator op, rfl⟩
  have hconcat : ∃ t : Token, "'||'" = t.description := hop .concat
  have hclosing : ∃ t : Token, "')'" = t.description := ⟨.closing, rfl⟩
  have hopening : ∃ t : Token, "'('" = t.description := ⟨.opening, rfl⟩
  have hliteral : ∃ t : Token, "a character" = t.description := ⟨.literal "A", rfl⟩
  simp only [Expectation.describe]
  cases x with
  | operand => simp [hopening, hliteral]
  | continuation =>
    simp only [List.forall_mem_cons, hclosing, or_true, true_and]
    exact ⟨.inr (hop .and), .inr (hop .add), .inr (hop .sub), .inr (hop .xor), .inr (hop .or),
      .inr hconcat, by simp⟩
  | closing => simp [hclosing, hconcat]
  | ending => simp [hconcat, endDescription]

/-- The list of a failure is right where an operand is wanted, and where a token inside an open
parenthesis follows an operand. Elsewhere it may have a closing parenthesis too many, and it may
lack operators and the end. -/
theorem listsContinuations_iff {text : String} {d : Diagnostic}
    (h : (parse text).failure = some d) :
    (ListsContinuations d.expected (tokensBefore d.offset (scan text)) ↔
      endsOperand (tokensBefore d.offset (scan text)) = false ∨
        (Unclosed (tokensBefore d.offset (scan text)) ∧ StopsAtToken text d)) ∧
    (∀ name ∈ d.expected, name = endDescription ∨ ∃ t : Token, name = t.description) ∧
    (∀ t : Token, t.description ∈ d.expected →
      Viable (tokensBefore d.offset (scan text) ++ [t]) ∨
        (t = .closing ∧ endsOperand (tokensBefore d.offset (scan text)) = true ∧
          StopsAtToken text d)) ∧
    (endDescription ∈ d.expected → WellFormed (tokensBefore d.offset (scan text))) ∧
    (∀ t : Token, Viable (tokensBefore d.offset (scan text) ++ [t]) →
      t.description ∈ d.expected ∨ ∃ op, t = .operator op ∧ op ≠ .concat) := by
  obtain ⟨ts, r, x, hr, hbefore, hexpected, hcases⟩ := failure_expectation h
  obtain ⟨hwhole, hnext⟩ := continuations hr
  rw [hbefore, hexpected, ListsContinuations, end_mem_describe_iff]
  simp only [mem_describe_iff, hwhole, hnext]
  have hconcat (op : Operator) : Token.operator op = .operator .concat ∨
      ∃ op', Token.operator op = .operator op' ∧ op' ≠ .concat := by
    by_cases hop : op = .concat
    · exact .inl (congrArg _ hop)
    · exact .inr ⟨op, rfl, hop⟩
  rcases hcases with ⟨he, rfl⟩ | ⟨he, hstops, rfl⟩ | ⟨he, hu, rfl⟩ | ⟨he, hu, hstops, rfl⟩
  all_goals simp only [he, ↓reduceIte, Bool.false_eq_true, reduceCtorEq]
  all_goals refine ⟨?_, describe_named _, ?_, ?_, ?_⟩
  -- An operand is wanted, and the list says so.
  · simp
  · simp
  · simp
  · exact fun t ht => .inl ht
  -- A token follows an operand: all operators are listed, and a closing parenthesis in any case.
  · by_cases hu : Unclosed (ts.map PlacedToken.token)
    · simp [hu, hstops, or_comm]
    · simp [hu]
  · rintro t (rfl | ht)
    · exact .inr ⟨rfl, trivial, hstops⟩
    · exact .inl (.inl ht)
  · exact False.elim
  · rintro t (ht | ⟨rfl, _⟩)
    · exact .inl (.inr ht)
    · exact .inl (.inl rfl)
  -- A parenthesis is closed that is not open: of the operators, only one is listed.
  · refine ⟨fun h => ?_, fun h => ?_⟩
    · have hadd := (h.1 (.operator .add)).mpr (.inl ⟨.add, rfl⟩)
      cases hadd
    · exact absurd (h.resolve_left id).1 hu
  · rintro t rfl
    exact .inl (.inl ⟨.concat, rfl⟩)
  · exact fun _ => ⟨trivial, hu⟩
  · rintro t (⟨op, rfl⟩ | ⟨rfl, hopen⟩)
    · exact hconcat op
    · exact absurd hopen hu
  -- The text ends inside a parenthesis: again only one operator is listed.
  · refine ⟨fun h => ?_, fun h => ?_⟩
    · have hadd := (h.1 (.operator .add)).mpr (.inl ⟨.add, rfl⟩)
      simp at hadd
    · exact absurd (h.resolve_left id).2 hstops
  · rintro t (rfl | rfl)
    · exact .inl (.inr ⟨rfl, hu⟩)
    · exact .inl (.inl ⟨.concat, rfl⟩)
  · exact False.elim
  · rintro t (⟨op, rfl⟩ | ⟨rfl, _⟩)
    · exact (hconcat op).imp_left .inr
    · exact .inl (.inl rfl)

theorem listsContinuations_inside :
    ∃ d, (parse "(A B").failure = some d ∧
      d.expected = ["'&'", "')'", "'+'", "'-'", "'^'", "'|'", "'||'"] ∧
      ListsContinuations d.expected [.opening, .literal "A"] := by
  have hfailure : (parse "(A B").failure.map (fun d => (d.offset, d.expected)) =
      some (3, ["'&'", "')'", "'+'", "'-'", "'^'", "'|'", "'||'"]) := by decide +kernel
  have hbefore : tokensBefore 3 (scan "(A B") = [.opening, .literal "A"] := by decide +kernel
  have hmem : ⟨.literal "B", 3⟩ ∈ scan "(A B" := by decide +kernel
  obtain ⟨d, hd, hparts⟩ := Option.map_eq_some_iff.mp hfailure
  obtain ⟨hoffset, hexpected⟩ := Prod.mk.inj hparts
  obtain ⟨hright, _⟩ := listsContinuations_iff hd
  rw [hoffset, hbefore] at hright
  exact ⟨d, hd, hexpected, hright.mpr (.inr ⟨by decide, _, hmem, hoffset.symm⟩)⟩

/-- Behind a whole expression a closing parenthesis is listed though none is open. -/
theorem listsContinuations_fails :
    ¬∀ (text : String) (d : Diagnostic), (parse text).failure = some d →
      ListsContinuations d.expected (tokensBefore d.offset (scan text)) := by
  intro h
  have hfailure : (parse "A B").failure.map (fun d => (d.offset, d.expected)) =
      some (2, ["'&'", "')'", "'+'", "'-'", "'^'", "'|'", "'||'"]) := by decide +kernel
  have hbefore : tokensBefore 2 (scan "A B") = [.literal "A"] := by decide +kernel
  obtain ⟨d, hd, hparts⟩ := Option.map_eq_some_iff.mp hfailure
  obtain ⟨hoffset, hexpected⟩ := Prod.mk.inj hparts
  have hlists := (h "A B" d hd).1 .closing
  rw [hoffset, hbefore, hexpected] at hlists
  have hr : Reader.readAll ⟨[], none⟩ [⟨.literal "A", 0⟩] = .ok ⟨[], some (.literal "A")⟩ := rfl
  rcases ((continuations hr).2 .closing).mp (hlists.mp (by decide)) with ⟨op, hop⟩ | ⟨_, hopen⟩
  · cases hop
  · exact absurd hopen (by decide)

end GlyphAlgebra
