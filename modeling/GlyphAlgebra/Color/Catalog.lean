import GlyphAlgebra.Color.Strategy

namespace GlyphAlgebra

/-- The named schemes, in the order in which they are shown. -/
def schemeCatalog : List (String × Scheme) :=
  [("Default", .hslWheel ⟨0, 1, 0.60, 1⟩ 70),
   ("Black", .uniform (.rgb ⟨0, 0, 0, 1⟩)),
   ("Pastel", .lchWheel ⟨75, 70, 0, 1⟩ 95),
   ("Rainbow", .lchWheel ⟨60, 70, 0, 1⟩ 10),
   ("Glass", .lchWheel ⟨60, 70, 0, 0.5⟩ 95)]

def schemeNames : List String := schemeCatalog.map (·.1)

def defaultSchemeName : String := "Default"

def defaultScheme : Scheme := .hslWheel ⟨0, 1, 0.60, 1⟩ 70

def Scheme.ofName (name : String) : Except StrategyError Scheme :=
  match schemeCatalog.lookup name with
  | some scheme => .ok scheme
  | none => .error (.unregistered name)

end GlyphAlgebra
