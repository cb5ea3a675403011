import GlyphAlgebra.Number.Exact

namespace GlyphAlgebra

/-- The number `0.d₁d₂d₃… * 10 ^ (point)` with the given significant digits. -/
structure DecimalDigits where
  digits : List Char
  point : Int
  deriving DecidableEq, Repr

/-- How many decimal digits stand before the point of a positive quotient; none or fewer below
one. -/
def pointOf (num den : Nat) : Int :=
  ((Nat.toDigits 10 (num * Nat.pow 10 400 / den)).length : Int) - 400

/-- The quotient in units of the last of `count` significant digits. -/
def decimalGrid (num den count : Nat) (point : Int) : Nat × Nat :=
  let shift := (count : Int) - point
  if 0 ≤ shift then (num * Nat.pow 10 shift.toNat, den)
  else (num, den * Nat.pow 10 (-shift).toNat)

def dropTrailingZeros (cs : List Char) : List Char :=
  (cs.reverse.dropWhile (· = '0')).reverse

/-- Digits of a grid value; one that has grown by a digit moves the point. -/
def gridDigits (value count : Nat) (point : Int) : DecimalDigits :=
  let cs := Nat.toDigits 10 value
  ⟨dropTrailingZeros cs, point + (cs.length - count : Int)⟩

/-- The neighbour on the decimal grid that reads back as `x`: the nearer one first, and of two
equally near the even one. -/
def gridHit? (x : Float) (num den count : Nat) (point : Int) : Option Nat :=
  let (n, d) := decimalGrid num den count point
  let low := n / d
  let neighbours := if roundQuotient n d = low then [low, low + 1] else [low + 1, low]
  neighbours.find? fun value => nearestDecimal value (point - count) == x

/-- The fewest significant digits that read back as the positive number `x`. -/
def shortestDigits (x : Float) (num den : Nat) : DecimalDigits :=
  let point := pointOf num den
  let hit := (List.range 17).findSome? fun k =>
    (gridHit? x num den (k + 1) point).map fun value => gridDigits value (k + 1) point
  hit.getD ⟨[], 0⟩

def roundedDigits (num den count : Nat) : DecimalDigits :=
  let point := pointOf num den
  let (n, d) := decimalGrid num den count point
  gridDigits (roundQuotient n d) count point

/-- When a number is written without an exponent, and whether a whole one shows a fraction. -/
structure DecimalLayout where
  least : Int
  most : Int
  keepsFraction : Bool

def exponentText (e : Int) : List Char :=
  let digits := Nat.toDigits 10 e.natAbs
  (if e < 0 then '-' else '+') :: (if digits.length < 2 then '0' :: digits else digits)

def DecimalLayout.write (l : DecimalLayout) (d : DecimalDigits) : List Char :=
  let exponent := d.point - 1
  if l.least ≤ exponent ∧ exponent < l.most then
    if d.point ≤ 0 then '0' :: '.' :: List.replicate (-d.point).toNat '0' ++ d.digits
    else
      let whole := d.digits.take d.point.toNat
      let fraction := d.digits.drop d.point.toNat
      let whole := whole ++ List.replicate (d.point.toNat - whole.length) '0'
      if fraction = [] then whole ++ (if l.keepsFraction then ['.', '0'] else [])
      else whole ++ '.' :: fraction
  else
    match d.digits with
    | [] => []
    | [c] => c :: 'e' :: exponentText exponent
    | c :: cs => c :: '.' :: cs ++ 'e' :: exponentText exponent

def writeFloat (l : DecimalLayout) (digits : Float → Nat → Nat → DecimalDigits) (x : Float) :
    String :=
  match floatValue x with
  | .nan => "nan"
  | .infinite negative => if negative then "-inf" else "inf"
  | .finite negative mantissa exponent =>
    let body :=
      if mantissa = 0 then '0' :: (if l.keepsFraction then ['.', '0'] else [])
      else
        let (num, den) := quotientOf mantissa exponent
        l.write (digits (if negative then -x else x) num den)
    String.ofList (if negative then '-' :: body else body)

/-- A number in messages: exact, and without an exponent below 10^16. -/
def floatText (x : Float) : String :=
  writeFloat ⟨-4, 16, true⟩ shortestDigits x

/-- A number in six significant digits, without an exponent below 10^6. -/
def generalText (x : Float) : String :=
  writeFloat ⟨-4, 6, false⟩ (fun _ num den => roundedDigits num den 6) x

end GlyphAlgebra
