import GlyphAlgebra.Proofs.Syntax.RoundTrip
import GlyphAlgebra.Proofs.Text.Overlap

namespace GlyphAlgebra

/-- There are no parentheses in the tree. -/
def Tree.Bare {α : Type} : Tree α → Prop
  | literal _ => True
  | paren _ => False
  | binary _ left right => left.Bare ∧ right.Bare
  | stray _ => True

theorem stripParens_bare {α : Type} (t : Tree α) : t.stripParens.Bare := by
  induction t with
  | literal | stray => trivial
  | paren inner ih => exact ih
  | binary op left right ihl ihr => exact ⟨ihl, ihr⟩

theorem literals_stripParens {α : Type} (t : Tree α) : t.stripParens.literals = t.literals := by
  induction t with
  | literal | stray => rfl
  | paren inner ih => exact ih
  | binary op left right ihl ihr => rw [Tree.stripParens, Tree.literals, ihl, ihr, Tree.literals]

theorem callForm_literal (text : String) : callForm (.literal text) = "'" ++ text ++ "'" := by
  simp only [callForm, Tree.fold_eq_reduce, Tree.reduce]
  rfl

theorem callForm_paren (e : Expr) : callForm (.paren e) = callForm e := by
  simp only [callForm, Tree.fold_eq_reduce, Tree.reduce]
  rfl

theorem callForm_binary (op : Operator) (left right : Expr) :
    callForm (.binary op left right) = op.name ++ "(" ++ callForm left ++
      callSeparator left right ++ callForm right ++ ")" := by
  simp only [callForm, Tree.fold_eq_reduce, Tree.reduce]
  rfl

theorem prefixForm_literal (text : String) : prefixForm (.literal text) = text := by
  simp [prefixForm, Tree.fold_eq_reduce, Tree.reduce]

theorem prefixForm_paren (e : Expr) : prefixForm (.paren e) = prefixForm e := by
  simp only [prefixForm, Tree.fold_eq_reduce, Tree.reduce]
  rfl

theorem prefixForm_binary (op : Operator) (left right : Expr) :
    prefixForm (.binary op left right) =
      "(" ++ op.symbol ++ " " ++ prefixForm left ++ " " ++ prefixForm right ++ ")" := by
  simp only [prefixForm, Tree.fold_eq_reduce, Tree.reduce]
  rfl

theorem isLiteral_stripParens (e : Expr) : e.stripParens.bare.isLiteral = e.bare.isLiteral := by
  induction e with
  | literal | binary => rfl
  | paren inner ih => exact ih
  | stray value => exact value.elim

theorem callForm_stripParens (e : Expr) : callForm e.stripParens = callForm e := by
  induction e with
  | literal => rfl
  | paren inner ih => rw [callForm_paren, ← ih]; rfl
  | binary op left right ihl ihr =>
    rw [Tree.stripParens, callForm_binary, callForm_binary, ihl, ihr, callSeparator, callSeparator,
      isLiteral_stripParens, isLiteral_stripParens]
  | stray value => exact value.elim

theorem prefixForm_stripParens (e : Expr) : prefixForm e.stripParens = prefixForm e := by
  induction e with
  | literal => rfl
  | paren inner ih => rw [prefixForm_paren, ← ih]; rfl
  | binary op left right ihl ihr =>
    rw [Tree.stripParens, prefixForm_binary, prefixForm_binary, ihl, ihr]
  | stray value => exact value.elim

/-- A tree without parentheses whose literals can be read. -/
def Plain (e : Expr) : Prop := e.Bare ∧ ∀ text ∈ e.literals, IsLiteral text

theorem Plain.left {op : Operator} {left right : Expr} (h : Plain (.binary op left right)) :
    Plain left :=
  ⟨h.1.1, fun text ht => h.2 text (List.mem_append_left _ ht)⟩

theorem Plain.right {op : Operator} {left right : Expr} (h : Plain (.binary op left right)) :
    Plain right :=
  ⟨h.1.2, fun text ht => h.2 text (List.mem_append_right _ ht)⟩

theorem Plain.text {text : String} (h : Plain (.literal text)) : IsLiteral text :=
  h.2 text (List.mem_singleton.mpr rfl)

theorem name_inj {op op' : Operator} {rest rest' : List Char}
    (h : op.name.toList ++ '(' :: rest = op'.name.toList ++ '(' :: rest') :
    op = op' ∧ rest = rest' := by
  cases op <;> cases op' <;> simp_all [Operator.name]

theorem symbol_inj {op op' : Operator} {rest rest' : List Char}
    (h : op.symbol.toList ++ ' ' :: rest = op'.symbol.toList ++ ' ' :: rest') :
    op = op' ∧ rest = rest' := by
  cases op <;> cases op' <;> simp_all [Operator.symbol]

/-- What may stand behind the call form of an operand. -/
def EndsCall (rest : List Char) : Prop :=
  ∀ d after, rest = d :: after → d = ',' ∨ d = ')'

theorem quote_not_ahead {rest rest' : List Char} (h : EndsCall rest) :
    ¬Ahead ('\'' :: rest) ('\'' :: rest') := by
  rintro ⟨d, marks, heq, hm⟩
  obtain ⟨_, hrest⟩ := List.cons.inj heq
  cases marks with
  | nil => rcases h _ _ hrest with h | h <;> cases h
  | cons m marks =>
    have hmark := hm m (List.mem_cons_self ..)
    rcases h _ _ hrest with rfl | rfl <;> exact absurd hmark (by decide)

theorem callForm_literal_append (text : String) (rest : List Char) :
    (callForm (.literal text)).toList ++ rest = '\'' :: (text.toList ++ '\'' :: rest) := by
  simp [callForm_literal]

theorem callForm_binary_append (op : Operator) (left right : Expr) (rest : List Char) :
    (callForm (.binary op left right)).toList ++ rest =
      op.name.toList ++ '(' :: ((callForm left).toList ++ ((callSeparator left right).toList ++
        ((callForm right).toList ++ ')' :: rest))) := by
  simp [callForm_binary]

theorem name_start (op : Operator) (rest : List Char) :
    ∃ c after, op.name.toList ++ rest = c :: after ∧ c ≠ '\'' ∧ c ≠ ' ' := by
  cases op <;> exact ⟨_, _, rfl, by decide, by decide⟩

theorem callForm_start {e : Expr} (h : e.Bare) (rest : List Char) :
    ∃ c after, (callForm e).toList ++ rest = c :: after ∧ c ≠ ' ' := by
  cases e with
  | literal text => exact ⟨_, _, callForm_literal_append text rest, by decide⟩
  | paren => exact h.elim
  | binary op left right =>
    rw [callForm_binary_append]
    obtain ⟨c, after, heq, _, hc⟩ := name_start op _
    exact ⟨c, after, heq, hc⟩
  | stray value => exact value.elim

theorem callSeparator_cases (left right : Expr) :
    callSeparator left right = "," ∨ callSeparator left right = ", " := by
  unfold callSeparator
  split
  · exact .inl rfl
  · exact .inr rfl

/-- The blank of a separator is not mistaken for the start of an operand. -/
theorem separator_inj {left right left' right' : Expr} (hr : right.Bare) (hr' : right'.Bare)
    {rest rest' : List Char}
    (h : (callSeparator left right).toList ++ ((callForm right).toList ++ rest) =
      (callSeparator left' right').toList ++ ((callForm right').toList ++ rest')) :
    (callForm right).toList ++ rest = (callForm right').toList ++ rest' := by
  obtain ⟨c, after, hc, hblank⟩ := callForm_start hr rest
  obtain ⟨c', after', hc', hblank'⟩ := callForm_start hr' rest'
  have hafter : ' ' ≠ c' := hblank'.symm
  rw [hc, hc'] at h ⊢
  rcases callSeparator_cases left right with hs | hs <;>
    rcases callSeparator_cases left' right' with hs' | hs' <;> rw [hs, hs'] at h <;> simp_all

theorem endsCall_separator (left right : Expr) (rest : List Char) :
    EndsCall ((callSeparator left right).toList ++ rest) := by
  intro d after h
  rcases callSeparator_cases left right with hs | hs <;>
    (rw [hs] at h; exact .inl (List.cons.inj h).1.symm)

theorem endsCall_closing (rest : List Char) : EndsCall (')' :: rest) :=
  fun _ _ h => .inr (List.cons.inj h).1.symm

/-- The call form of a tree without parentheses can be told from all others, and from what follows
it. -/
theorem callForm_append_inj {t u : Expr} (ht : Plain t) (hu : Plain u) {rest rest' : List Char}
    (hr : EndsCall rest) (hr' : EndsCall rest')
    (h : (callForm t).toList ++ rest = (callForm u).toList ++ rest') : t = u ∧ rest = rest' := by
  induction t generalizing u rest rest' with
  | literal text =>
    rw [callForm_literal_append] at h
    cases u with
    | literal text' =>
      rw [callForm_literal_append] at h
      have hquote (cs : List Char) : StartsPlain ('\'' :: cs) := by
        intro d after hd
        obtain ⟨rfl, _⟩ := List.cons.inj hd
        decide
      rcases literals_ahead ht.text hu.text (hquote _) (hquote _) (List.cons.inj h).2 with
        ⟨rfl, hrest⟩ | hahead | hahead
      · exact ⟨rfl, (List.cons.inj hrest).2⟩
      · exact absurd hahead (quote_not_ahead hr)
      · exact absurd hahead (quote_not_ahead hr')
    | paren => exact hu.1.elim
    | binary op left right =>
      rw [callForm_binary_append] at h
      obtain ⟨c, after, hname, hc, _⟩ := name_start op ('(' :: _)
      rw [hname] at h
      exact absurd (List.cons.inj h).1.symm hc
    | stray value => exact value.elim
  | paren => exact ht.1.elim
  | binary op left right ihl ihr =>
    rw [callForm_binary_append] at h
    cases u with
    | literal text' =>
      rw [callForm_literal_append] at h
      obtain ⟨c, after, hname, hc, _⟩ := name_start op ('(' :: _)
      rw [hname] at h
      exact absurd (List.cons.inj h).1 hc
    | paren => exact hu.1.elim
    | binary op' left' right' =>
      rw [callForm_binary_append] at h
      obtain ⟨rfl, hoperands⟩ := name_inj h
      obtain ⟨rfl, hseparated⟩ := ihl ht.left hu.left (endsCall_separator left right _)
        (endsCall_separator left' right' _) hoperands
      have hright := separator_inj ht.right.1 hu.right.1 hseparated
      obtain ⟨rfl, hrest⟩ := ihr ht.right hu.right (endsCall_closing _) (endsCall_closing _) hright
      exact ⟨rfl, (List.cons.inj hrest).2⟩
    | stray value => exact value.elim
  | stray value => exact value.elim

/-- What may stand behind operands in the same place of two prefix forms: nothing, the end of an
operation, or another operand. -/
inductive Behind : List Char → List Char → Prop
  | done : Behind [] []
  | closing {rest rest' : List Char} (h : Behind rest rest') : Behind (')' :: rest) (')' :: rest')
  | operand {e e' : Expr} (he : Plain e) (he' : Plain e') (rest rest' : List Char) :
      Behind (' ' :: ((prefixForm e).toList ++ ')' :: rest))
        (' ' :: ((prefixForm e').toList ++ ')' :: rest'))

namespace Behind

variable {rest rest' : List Char}

theorem symm (h : Behind rest rest') : Behind rest' rest := by
  induction h with
  | done => exact .done
  | closing _ ih => exact .closing ih
  | operand he he' rest rest' => exact .operand he' he rest' rest

theorem start (h : Behind rest rest') {d : Char} {after : List Char} (hd : rest = d :: after) :
    d = ')' ∨ d = ' ' := by
  cases h with
  | done => cases hd
  | closing => exact .inl (List.cons.inj hd).1.symm
  | operand => exact .inr (List.cons.inj hd).1.symm

theorem startsPlain (h : Behind rest rest') : StartsPlain rest := by
  intro d after hd
  rcases h.start hd with rfl | rfl <;> decide

/-- A parenthesis more cannot be made up for. -/
theorem ne_closing (h : Behind rest rest') : rest ≠ ')' :: rest' := by
  induction h with
  | done => nofun
  | closing _ ih => exact fun heq => ih (List.cons.inj heq).2
  | operand => exact fun heq => absurd (List.cons.inj heq).1 (by decide)

end Behind

theorem prefixForm_binary_append (op : Operator) (left right : Expr) (rest : List Char) :
    (prefixForm (.binary op left right)).toList ++ rest =
      '(' :: (op.symbol.toList ++ ' ' :: ((prefixForm left).toList ++
        ' ' :: ((prefixForm right).toList ++ ')' :: rest))) := by
  simp [prefixForm_binary]

theorem literal_start {text : String} (hl : IsLiteral text) (rest : List Char) :
    ∃ c after, text.toList ++ rest = c :: after ∧ c ≠ '(' ∧ c ≠ ' ' := by
  obtain ⟨c, tail, htext, hspacing, hsymbol, _⟩ := hl
  refine ⟨c, tail ++ rest, by rw [htext]; rfl, ?_, ?_⟩
  · rintro rfl
    cases hsymbol
  · rintro rfl
    rw [isSpacing_blank] at hspacing
    cases hspacing

/-- A literal of marks alone ends where its marks do. -/
theorem marks_end {text marks : List Char} (ht : ∀ c ∈ text, isMark c = true)
    (hm : ∀ c ∈ marks, isMark c = true) {d d' : Char} (hd : isMark d = false)
    (hd' : isMark d' = false) {rest rest' : List Char}
    (h : text ++ d :: rest = marks ++ d' :: rest') : d = d' := by
  have hmarks (cs rest : List Char) (c : Char) (hcs : ∀ c ∈ cs, isMark c = true)
      (hc : isMark c = false) : (cs ++ c :: rest).dropWhile isMark = c :: rest := by
    rw [List.dropWhile_append_of_pos hcs, List.dropWhile_cons_of_neg (by rw [hc]; nofun)]
  have hdrop := congrArg (List.dropWhile isMark) h
  rw [hmarks text rest d ht hd, hmarks marks rest' d' hm hd'] at hdrop
  exact (List.cons.inj hdrop).1

theorem marks_not_operand {e : Expr} (he : Plain e) {marks rest rest' : List Char}
    (hm : ∀ m ∈ marks, isMark m = true) :
    (prefixForm e).toList ++ ')' :: rest ≠ marks ++ ' ' :: rest' := by
  intro h
  cases e with
  | literal text =>
    rw [prefixForm_literal] at h
    obtain ⟨c, after, hc, _, hblank⟩ := literal_start he.text (')' :: rest)
    cases marks with
    | nil =>
      rw [hc] at h
      exact hblank (List.cons.inj h).1
    | cons m marks =>
      obtain ⟨c', tail, htext, _⟩ := he.text
      have hstart : c' = m := by
        rw [htext] at h
        exact (List.cons.inj h).1
      have hall := literal_all_marks he.text htext (hstart ▸ hm m (List.mem_cons_self ..))
      exact absurd (marks_end hall hm (by decide) (by decide) h) (by decide)
  | paren => exact he.1.elim
  | binary op left right =>
    rw [prefixForm_binary_append] at h
    cases marks with
    | nil => exact absurd (List.cons.inj h).1 (by decide)
    | cons m marks =>
      have hmark := hm m (List.mem_cons_self ..)
      rw [← (List.cons.inj h).1] at hmark
      exact absurd hmark (by decide)
  | stray value => exact value.elim

theorem Behind.not_ahead {rest rest' : List Char} (h : Behind rest rest') : ¬Ahead rest rest' := by
  rintro ⟨d, marks, heq, hm⟩
  cases h with
  | done => cases heq
  | closing h =>
    obtain ⟨_, heq⟩ := List.cons.inj heq
    cases marks with
    | nil => exact h.ne_closing heq
    | cons m marks =>
      have hmark := hm m (List.mem_cons_self ..)
      rcases h.start heq with rfl | rfl <;> exact absurd hmark (by decide)
  | operand he he' rest rest' => exact marks_not_operand he hm (List.cons.inj heq).2

theorem prefixForm_append_inj {t u : Expr} (ht : Plain t) (hu : Plain u) {rest rest' : List Char}
    (hr : Behind rest rest')
    (h : (prefixForm t).toList ++ rest = (prefixForm u).toList ++ rest') :
    t = u ∧ rest = rest' := by
  induction t generalizing u rest rest' with
  | literal text =>
    rw [prefixForm_literal] at h
    cases u with
    | literal text' =>
      rw [prefixForm_literal] at h
      rcases literals_ahead ht.text hu.text hr.startsPlain hr.symm.startsPlain h with
        ⟨rfl, hrest⟩ | hahead | hahead
      · exact ⟨rfl, hrest⟩
      · exact absurd hahead hr.not_ahead
      · exact absurd hahead hr.symm.not_ahead
    | paren => exact hu.1.elim
    | binary op left right =>
      obtain ⟨c, after, hc, hopening, _⟩ := literal_start ht.text rest
      rw [hc, prefixForm_binary_append] at h
      exact absurd (List.cons.inj h).1 hopening
    | stray value => exact value.elim
  | paren => exact ht.1.elim
  | binary op left right ihl ihr =>
    rw [prefixForm_binary_append] at h
    cases u with
    | literal text' =>
      obtain ⟨c, after, hc, hopening, _⟩ := literal_start hu.text rest'
      rw [prefixForm_literal, hc] at h
      exact absurd (List.cons.inj h).1.symm hopening
    | paren => exact hu.1.elim
    | binary op' left' right' =>
      rw [prefixForm_binary_append] at h
      obtain ⟨rfl, hoperands⟩ := symbol_inj (List.cons.inj h).2
      obtain ⟨rfl, hright⟩ := ihl ht.left hu.left (.operand ht.right hu.right _ _) hoperands
      obtain ⟨rfl, hrest⟩ := ihr ht.right hu.right (.closing hr) (List.cons.inj hright).2
      exact ⟨rfl, (List.cons.inj hrest).2⟩
    | stray value => exact value.elim
  | stray value => exact value.elim

theorem parse_plain {text : String} {e : Expr} (h : (parse text).expression = some e) :
    Plain e.stripParens := by
  obtain ⟨_, hs⟩ := parse_tokens h
  refine ⟨stripParens_bare e, fun l hl => ?_⟩
  rw [literals_stripParens] at hl
  exact scans_isLiteral hs (literal_mem_tokens.mpr hl)

/-- Of the trees that are read from texts, those with one call form are those with one prefix form,
and they differ at most in parentheses. -/
theorem forms_identify_tree {text text' : String} {t u : Expr}
    (ht : (parse text).expression = some t) (hu : (parse text').expression = some u) :
    (callForm t = callForm u ↔ t.stripParens = u.stripParens) ∧
      (prefixForm t = prefixForm u ↔ t.stripParens = u.stripParens) := by
  have htp := parse_plain ht
  have hup := parse_plain hu
  rw [← callForm_stripParens t, ← callForm_stripParens u, ← prefixForm_stripParens t,
    ← prefixForm_stripParens u]
  refine ⟨⟨fun h => ?_, fun h => by rw [h]⟩, fun h => ?_, fun h => by rw [h]⟩
  · have hend : EndsCall [] := nofun
    exact (callForm_append_inj htp hup hend hend (by rw [h])).1
  · exact (prefixForm_append_inj htp hup .done (by rw [h])).1

theorem forms_identify_tree_quote :
    let t : Expr := .binary .sub (.literal "\u0600 ") (.paren (.literal "'"))
    let u : Expr := .binary .sub (.paren (.literal "\u0600 ")) (.literal "'")
    (parse "\u0600 -(')").expression = some t ∧ (parse "(\u0600 )-'").expression = some u ∧
      callForm t = callForm u ∧ prefixForm t = prefixForm u := by
  intro t u
  have ht : (parse "\u0600 -(')").expression = some t := by decide +kernel
  have hu : (parse "(\u0600 )-'").expression = some u := by decide +kernel
  obtain ⟨hcall, hprefix⟩ := forms_identify_tree ht hu
  exact ⟨ht, hu, hcall.mpr rfl, hprefix.mpr rfl⟩

end GlyphAlgebra
