namespace GlyphAlgebra

/-- The result of the newest request that has been answered. -/
structure Newest (α : Type) where
  issued : Nat
  committed : Int
  latest : Option α
  deriving DecidableEq, Repr

namespace Newest

variable {α : Type}

def empty : Newest α := ⟨0, 0, none⟩

def request (r : Newest α) : Nat × Newest α :=
  (r.issued + 1, { r with issued := r.issued + 1 })

/-- Publishes a result unless one of the same or a newer id is there. -/
def commit (r : Newest α) (id : Int) (result : α) : Bool × Newest α :=
  if id ≤ r.committed then (false, r)
  else (true, { r with committed := id, latest := some result })

end Newest

end GlyphAlgebra
