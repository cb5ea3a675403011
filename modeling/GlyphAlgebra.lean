import GlyphAlgebra.Main
import GlyphAlgebra.Proofs.Color.Shelf
import GlyphAlgebra.Proofs.CommandLine.Outcome
import GlyphAlgebra.Proofs.Drawing.Placement
import GlyphAlgebra.Proofs.Drawing.Region
import GlyphAlgebra.Proofs.Drawing.Regrouping
import GlyphAlgebra.Proofs.Drawing.Sequence
import GlyphAlgebra.Proofs.Drawing.Stopping
import GlyphAlgebra.Proofs.Font.Families
import GlyphAlgebra.Proofs.Font.Recency
import GlyphAlgebra.Proofs.Font.Resolution
import GlyphAlgebra.Proofs.Font.Size
import GlyphAlgebra.Proofs.Session.Display
import GlyphAlgebra.Proofs.Syntax.Identity
import GlyphAlgebra.Proofs.Syntax.Necessity
import GlyphAlgebra.Proofs.Syntax.Position
import GlyphAlgebra.Proofs.Syntax.Respelling
import GlyphAlgebra.Proofs.Syntax.Widening
import GlyphAlgebra.Session
import GlyphAlgebra.Proofs.Color.Iterator
