import GlyphAlgebra.Form
import GlyphAlgebra.Grammar
import GlyphAlgebra.Proofs.Text.Literal

namespace GlyphAlgebra

/-- The tokens of a tree as it stands, without further parentheses. -/
def Tree.tokens {α : Type} : Tree α → List Token
  | literal text => [.literal text]
  | paren inner => .opening :: inner.tokens ++ [.closing]
  | binary op left right => left.tokens ++ .operator op :: right.tokens
  | stray _ => []

theorem Derives.tokens_eq {s : Nat} {tokens : List Token} {e : Expr} (h : Derives s tokens e) :
    tokens = e.tokens := by
  induction h with
  | literal => rfl
  | paren _ _ ih => rw [ih]; rfl
  | binary _ _ _ _ ihl ihr => rw [ihl, ihr]; rfl

/-- A token with the blanks that the infix form puts around it. -/
def Token.spaced : Token → List Char
  | operator op => ' ' :: (op.symbol.toList ++ [' '])
  | t => t.text.toList

def spaced (tokens : List Token) : List Char :=
  tokens.flatMap Token.spaced

theorem infixForm_literal (text : String) : infixForm (.literal text) = text := by
  simp [infixForm, Tree.fold_eq_reduce, Tree.reduce]

theorem infixForm_paren (e : Expr) : infixForm (.paren e) = "(" ++ infixForm e ++ ")" := by
  simp only [infixForm, Tree.fold_eq_reduce, Tree.reduce]
  rfl

theorem infixForm_binary (op : Operator) (left right : Expr) :
    infixForm (.binary op left right) =
      wrapText (wrapsLeft op left) (infixForm left) ++ (" " ++ op.symbol ++ " ") ++
        wrapText (wrapsRight op right) (infixForm right) := by
  simp only [infixForm, Tree.fold_eq_reduce, Tree.reduce]
  rfl

theorem Derives.not_wrapsLeft {op : Operator} {tokens : List Token} {e : Expr}
    (h : Derives op.strength tokens e) : wrapsLeft op e = false := by
  cases h with
  | literal => rfl
  | paren => rfl
  | binary inner hle => simpa [wrapsLeft] using hle

theorem Derives.not_wrapsRight {op : Operator} {tokens : List Token} {e : Expr}
    (h : Derives (op.strength + 1) tokens e) : wrapsRight op e = false := by
  cases h with
  | literal => rfl
  | paren => rfl
  | binary inner hle => simpa [wrapsRight] using Nat.lt_of_succ_le hle

/-- The infix form of what the grammar derives is made of its tokens. -/
theorem Derives.infixForm_toList {s : Nat} {tokens : List Token} {e : Expr}
    (h : Derives s tokens e) : (infixForm e).toList = spaced tokens := by
  induction h with
  | literal _ text => simp [infixForm_literal, spaced, Token.spaced, Token.text]
  | paren _ _ ih => simp [infixForm_paren, spaced, Token.spaced, Token.text, ih]
  | binary op _ hl hr ihl ihr =>
    rw [infixForm_binary, hl.not_wrapsLeft, hr.not_wrapsRight]
    simp [wrapText, spaced, Token.spaced, ihl, ihr]

theorem isSpacing_blank : isSpacing ' ' = true := by decide

theorem scans_operator_iff (op : Operator) {rest : List Char} {tokens : List Token} :
    Scans ((Token.operator op).spaced ++ rest) (.operator op :: tokens) ↔ Scans rest tokens := by
  have hcons : (Token.operator op).spaced ++ rest = ' ' :: (op.symbol.toList ++ ' ' :: rest) := by
    simp [Token.spaced]
  rw [hcons, scans_spacing_iff isSpacing_blank]
  have hback : Scans (' ' :: rest) tokens ↔ Scans rest tokens :=
    scans_spacing_iff isSpacing_blank
  rw [← hback]
  cases op with
  | concat => exact scans_bars_iff
  | or => exact scans_symbol_iff rfl fun _ => by simp
  | _ => exact scans_symbol_iff rfl fun h => absurd h (by decide)

theorem scans_opening_iff {rest : List Char} {tokens : List Token} :
    Scans (Token.opening.spaced ++ rest) (.opening :: tokens) ↔ Scans rest tokens :=
  scans_symbol_iff rfl fun h => absurd h (by decide)

theorem scans_closing_iff {rest : List Char} {tokens : List Token} :
    Scans (Token.closing.spaced ++ rest) (.closing :: tokens) ↔ Scans rest tokens :=
  scans_symbol_iff rfl fun h => absurd h (by decide)

/-- No literal among the tokens draws in what the infix form puts behind it. -/
def Parted : List Token → Prop
  | [] => True
  | .literal text :: rest => Apart text (spaced rest) ∧ Parted rest
  | _ :: rest => Parted rest

/-- The spaced text of tokens has these tokens unless a literal draws in what follows it. -/
theorem scans_spaced_iff {tokens : List Token}
    (hl : ∀ text, .literal text ∈ tokens → IsLiteral text) :
    Scans (spaced tokens) tokens ↔ Parted tokens := by
  induction tokens with
  | nil => exact ⟨fun _ => trivial, fun _ => .nil⟩
  | cons t rest ih =>
    have hrest := ih fun text ht => hl text (List.mem_cons_of_mem t ht)
    have hcons : spaced (t :: rest) = t.spaced ++ spaced rest := List.flatMap_cons
    rw [hcons]
    cases t with
    | literal text =>
      have htext := hl text (List.mem_cons_self ..)
      exact (scans_text_literal_iff htext).trans (and_congr_right fun _ => hrest)
    | opening => exact scans_opening_iff.trans hrest
    | closing => exact scans_closing_iff.trans hrest
    | operator op => exact (scans_operator_iff op).trans hrest

end GlyphAlgebra
