import GlyphAlgebra.Bitmap.Blend

namespace GlyphAlgebra

def grammarText : String :=
  "\n?start: concat_expr\n\n?concat_expr: concat_expr \"||\" sum_expr   -> concat\n"
  ++ "            | sum_expr\n\n?sum_expr: sum_expr \"+\" xor_expr          -> add\n"
  ++ "         | sum_expr \"-\" xor_expr          -> sub\n         | xor_expr\n\n"
  ++ "?xor_expr: xor_expr \"^\" bit_expr          -> xor\n         | bit_expr\n\n"
  ++ "?bit_expr: bit_expr \"&\" atom              -> and_\n"
  ++ "         | bit_expr \"|\" atom              -> or_\n         | atom\n\n"
  ++ "?atom: \"(\" concat_expr \")\"                -> paren\n"
  ++ "     | CHAR                               -> char\n\n"
  ++ "// One extended grapheme cluster not starting with whitespace or a symbol.\n"
  ++ "CHAR: /(?![\\s()+\\-&|^])\\X/\n\n%ignore /\\s+/\n"

def symbolSummary : String :=
  "|| concat\n+  add\n-  subtract\n&  and\n|  or\n^  xor\n() parentheses\nany unicode character\n"

def symbolCharacters : List Char := ['&', '(', ')', '+', '-', '^', '|']

/-- The operators from the loosest to the tightest. -/
def operatorsByStrength : List Operator := [.concat, .add, .sub, .xor, .and, .or]

/-- The operators that blend, in the order in which they are listed. -/
def blendingOperators : List (Operator × BlendMode) :=
  [Operator.add, .or, .sub, .and, .xor].filterMap fun op => op.blendMode?.map (op, ·)

end GlyphAlgebra
