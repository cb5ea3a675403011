import GlyphAlgebra.Number.Decimal
import GlyphAlgebra.Text.Blank
import GlyphAlgebra.Text.Digit
import GlyphAlgebra.Text.Quoted

namespace GlyphAlgebra

structure FontSpec where
  size : Float
  families : List String
  deriving DecidableEq, Repr

inductive FontSpecError
  | malformed (spec : String)
  | notPositive (spec : String)
  deriving DecidableEq, Repr

def FontSpecError.message : FontSpecError → String
  | malformed spec => s!"Malformed font spec {quoted spec}, expected '<size>px <family>'"
  | notPositive spec => s!"Font size must be positive in {quoted spec}"

/-- The digits before and after the point of a size, and what follows them; a point without
digits behind it belongs to what follows. -/
def splitSize (cs : List Char) : List Char × List Char × List Char :=
  let whole := cs.takeWhile isDecimalDigit
  match cs.dropWhile isDecimalDigit with
  | '.' :: rest =>
    match rest.takeWhile isDecimalDigit with
    | [] => (whole, [], '.' :: rest)
    | fraction => (whole, fraction, rest.dropWhile isDecimalDigit)
  | rest => (whole, [], rest)

def splitFontSpec (cs : List Char) : Option (List Char × List Char × List Char) :=
  match splitSize (cs.dropWhile isBlank) with
  | ([], _, _) => none
  | (whole, fraction, 'p' :: 'x' :: c :: rest) =>
    let families := strip isBlank rest
    if isBlank c && families ≠ [] && !families.contains '\n' then some (whole, fraction, families)
    else none
  | _ => none

def isQuoteMark (c : Char) : Bool := c = '\'' || c = '"'

/-- A family in its list may have blanks and then quotation marks around it. -/
def familyName (piece : List Char) : List Char :=
  strip isQuoteMark (strip isBlank piece)

def familyNames (cs : List Char) : List String :=
  ((cs.splitOn ',').map familyName).filter (· ≠ []) |>.map String.ofList

/-- Reads a spec such as `12.5px 'Some Face', serif`. -/
def FontSpec.ofText (spec : String) : Except FontSpecError FontSpec :=
  match splitFontSpec spec.toList with
  | none => .error (.malformed spec)
  | some (whole, fraction, families) =>
    let size := nearestDecimal (digitsValue (whole ++ fraction)) (-fraction.length)
    if size ≤ 0 then .error (.notPositive spec) else .ok ⟨size, familyNames families⟩

def fontSpecText (size : Float) (family : String) : String :=
  s!"{generalText size}px {family}"

end GlyphAlgebra
