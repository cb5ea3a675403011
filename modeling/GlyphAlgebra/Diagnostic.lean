import GlyphAlgebra.Reader

namespace GlyphAlgebra

structure Diagnostic where
  message : String
  offset : Int
  line : Int
  column : Int
  expected : List String
  deriving DecidableEq, Repr

/-- Lines and columns count from one; a newline belongs to the line it ends. -/
def textPosition (text : List Char) (offset : Nat) : Nat × Nat :=
  let before := text.take offset
  (before.count '\n' + 1, (before.reverse.takeWhile (· ≠ '\n')).length + 1)

def Expectation.describe : Expectation → List String
  | operand => ["'('", "a character"]
  | continuation => ["'&'", "')'", "'+'", "'-'", "'^'", "'|'", "'||'"]
  | closing => ["')'", "'||'"]
  | ending => ["'||'", "end of input"]

namespace SyntaxError

def offset (e : SyntaxError) (text : List Char) : Nat :=
  match e.found with
  | some t => t.offset
  | none => text.length

def foundText (e : SyntaxError) : String :=
  match e.found with
  | some t => quoted t.token.text
  | none => "end of input"

def diagnostic (e : SyntaxError) (text : List Char) : Diagnostic :=
  let offset := e.offset text
  let (line, column) := textPosition text offset
  let expected := e.expectation.describe
  let message := s!"Line {line}, col {column}: unexpected {e.foundText}; expected "
    ++ " or ".intercalate expected
  ⟨message, offset, line, column, expected⟩

end SyntaxError

end GlyphAlgebra
