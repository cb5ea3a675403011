import GlyphAlgebra.Proofs.Syntax.RoundTrip

namespace GlyphAlgebra

/-- A token of a text, and what stands between it and the token before. -/
structure Piece where
  gap : List Char
  token : Token

/-- The text consists of these pieces and of an ending, and only white space stands between the
tokens and at the end. -/
structure LaidOut (cs : List Char) (pieces : List Piece) (ending : List Char) : Prop where
  spelled : cs = pieces.flatMap (fun p => p.gap ++ p.token.text.toList) ++ ending
  gaps : ∀ p ∈ pieces, ∀ c ∈ p.gap, isSpacing c = true
  ends : ∀ c ∈ ending, isSpacing c = true

theorem LaidOut.token {cs ending : List Char} {pieces : List Piece}
    (h : LaidOut cs pieces ending) (t : Token) :
    LaidOut (t.text.toList ++ cs) (⟨[], t⟩ :: pieces) ending := by
  have hspelled := h.spelled
  refine ⟨by simp [hspelled], ?_, h.ends⟩
  intro p hp c hc
  rcases List.mem_cons.mp hp with rfl | hp
  · simp at hc
  · exact h.gaps p hp c hc

/-- More white space widens the first gap, or the ending where there is no token. -/
theorem LaidOut.spacing {cs ending : List Char} {pieces : List Piece}
    (h : LaidOut cs pieces ending) {c : Char} (hc : isSpacing c = true) :
    ∃ pieces' ending', LaidOut (c :: cs) pieces' ending' ∧
      pieces'.map Piece.token = pieces.map Piece.token := by
  have hspelled := h.spelled
  cases pieces with
  | nil =>
    refine ⟨[], c :: ending, ⟨by simp [hspelled], by simp, ?_⟩, rfl⟩
    intro d hd
    rcases List.mem_cons.mp hd with rfl | hd
    · exact hc
    · exact h.ends d hd
  | cons p pieces =>
    refine ⟨⟨c :: p.gap, p.token⟩ :: pieces, ending, ⟨by simp [hspelled], ?_, h.ends⟩, rfl⟩
    intro q hq d hd
    rcases List.mem_cons.mp hq with rfl | hq
    · rcases List.mem_cons.mp hd with rfl | hd
      · exact hc
      · exact h.gaps p (List.mem_cons_self ..) d hd
    · exact h.gaps q (List.mem_cons_of_mem p hq) d hd

/-- A text consists of its tokens, and of white space that belongs to none of them. -/
theorem Scans.laidOut {cs : List Char} {tokens : List Token} (h : Scans cs tokens) :
    ∃ pieces ending, LaidOut cs pieces ending ∧ pieces.map Piece.token = tokens := by
  induction h with
  | nil => exact ⟨[], [], ⟨rfl, by simp, by simp⟩, rfl⟩
  | spacing hc _ ih =>
    obtain ⟨pieces, ending, hlaid, htokens⟩ := ih
    obtain ⟨pieces', ending', hlaid', htokens'⟩ := hlaid.spacing hc
    exact ⟨pieces', ending', hlaid', htokens'.trans htokens⟩
  | bars _ ih =>
    obtain ⟨pieces, ending, hlaid, htokens⟩ := ih
    have hbars := hlaid.token (.operator .concat)
    exact ⟨_, ending, hbars, by rw [List.map_cons, htokens]⟩
  | @symbol c t cs tokens hc _ _ ih =>
    obtain ⟨pieces, ending, hlaid, htokens⟩ := ih
    have hsymbol := hlaid.token t
    rw [symbolToken?_text hc] at hsymbol
    exact ⟨_, ending, hsymbol, by rw [List.map_cons, htokens]⟩
  | @literal c tail rest tokens _ _ _ _ ih =>
    obtain ⟨pieces, ending, hlaid, htokens⟩ := ih
    have hliteral := hlaid.token (.literal (String.ofList (c :: tail)))
    rw [Token.text, String.toList_ofList] at hliteral
    exact ⟨_, ending, hliteral, by rw [List.map_cons, htokens]⟩

def Token.literal? : Token → Option String
  | literal text => some text
  | _ => none

/-- Writes down each literal when the fold comes to it. -/
def collecting : Reduction (StateM (List String)) Empty Unit where
  literal text := modify (· ++ [text])
  paren _ _ := return
  binary _ _ _ _ _ := return
  stray := nofun

/-- The literals of an expression in the order in which a fold comes to them. -/
def Expr.collected (e : Expr) : List String :=
  ((e.fold collecting).run []).2

theorem reduce_collecting (e : Expr) (texts : List String) :
    (e.reduce collecting).run texts = ((), texts ++ e.literals) := by
  induction e generalizing texts with
  | literal text => rfl
  | paren inner ih =>
    rw [Tree.reduce, StateT.run_bind, ih]
    rfl
  | binary op left right ihl ihr =>
    have hleft := ihl texts
    have hright := ihr (texts ++ left.literals)
    rw [List.append_assoc] at hright
    rw [Tree.reduce, StateT.run_bind, hleft]
    show ((right.reduce collecting >>= fun _ => pure ()).run (texts ++ left.literals)) = _
    rw [StateT.run_bind, hright]
    rfl
  | stray value => exact value.elim

theorem collected_eq_literals (e : Expr) : e.collected = e.literals := by
  have hreduce := reduce_collecting e []
  rw [Expr.collected, Tree.fold_eq_reduce, hreduce, List.nil_append]

/-- Where the grammar derives an expression, no operand lacks the parentheses that the infix form
would add. -/
theorem Derives.regroup_eq {s : Nat} {tokens : List Token} {e : Expr} (h : Derives s tokens e) :
    e.regroup = e := by
  induction h with
  | literal => rfl
  | paren _ _ ih => rw [Tree.regroup, ih]
  | binary op _ hl hr ihl ihr =>
    have hleft := hl.not_wrapsLeft
    have hright := hr.not_wrapsRight
    rw [wrapsLeft_eq] at hleft
    rw [wrapsRight_eq] at hright
    rw [Tree.regroup, ihl, ihr, hleft, hright]
    rfl

/-- The infix form of an expression that was read spells the tokens of its text again, in their
order. White space between the tokens is dropped, and a blank stands on each side of an operator.
Parentheses are those of the text: none is added, and none of the tree is lost. The literals that a
fold comes to are those of the text. -/
theorem infixForm_respells {text : String} {e : Expr} (h : (parse text).expression = some e) :
    ∃ pieces ending, LaidOut text.toList pieces ending ∧
      pieces.map Piece.token = (scan text).map PlacedToken.token ∧
      (infixForm e).toList = pieces.flatMap (fun p => p.token.spaced) ∧
      e.tokens = pieces.map Piece.token ∧ e.regroup = e ∧
      e.collected = pieces.filterMap (fun p => p.token.literal?) := by
  obtain ⟨hd, hs⟩ := parse_tokens h
  obtain ⟨pieces, ending, hlaid, htokens⟩ := hs.laidOut
  have hscan := scans_text_iff.mp hs
  have hform := hd.infixForm_toList
  have hliterals : e.literals = e.tokens.filterMap Token.literal? := hd.literals_eq
  refine ⟨pieces, ending, hlaid, htokens.trans hscan.symm, ?_, htokens.symm, hd.regroup_eq, ?_⟩
  · rw [hform, spaced, ← htokens, List.flatMap_map]
  · rw [collected_eq_literals, hliterals, ← htokens, List.filterMap_map]
    rfl

theorem infixForm_respells_plus :
    let text := "( A-\t(e\u0301 ))||\u0600+ ^B\n"
    let e : Expr := .binary .concat
      (.paren (.binary .sub (.literal "A") (.paren (.literal "e\u0301"))))
      (.binary .xor (.literal "\u0600+") (.literal "B"))
    (parse text).expression = some e ∧ infixForm e = "(A - (e\u0301)) || \u0600+ ^ B" ∧
      ∃ pieces ending, LaidOut text.toList pieces ending ∧
        (infixForm e).toList = pieces.flatMap (fun p => p.token.spaced) ∧
        pieces.filterMap (fun p => p.token.literal?) = ["A", "e\u0301", "\u0600+", "B"] := by
  intro text e
  have h : (parse text).expression = some e := by decide +kernel
  have hform : infixForm e = "(A - (e\u0301)) || \u0600+ ^ B" := by decide +kernel
  obtain ⟨pieces, ending, hlaid, _, hspelled, _, _, hliterals⟩ := infixForm_respells h
  rw [collected_eq_literals] at hliterals
  exact ⟨h, hform, pieces, ending, hlaid, hspelled, hliterals.symm⟩

end GlyphAlgebra
