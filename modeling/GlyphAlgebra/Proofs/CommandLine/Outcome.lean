import GlyphAlgebra.CommandLine
import GlyphAlgebra.Proofs.CommandLine.Options
import GlyphAlgebra.Proofs.Drawing.Extent
import GlyphAlgebra.Proofs.Drawing.Memory
import GlyphAlgebra.Proofs.Drawing.Reference
import GlyphAlgebra.Proofs.Number.Bits

namespace GlyphAlgebra

/-- Failures that are reported in place of a drawing. -/
def CommandError.isExpected : CommandError → Bool
  | render e => e.isExpected
  | noScheme | noSize | renderer _ | path _ => false

variable {arguments : List String} {a : Arguments} {backend : FontBackend} {e : Expr} {r : Renderer}

end GlyphAlgebra
