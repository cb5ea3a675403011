namespace GlyphAlgebra

/-- What a float stands for; a finite one is `mantissa * 2 ^ exponent` up to its sign. -/
inductive FloatValue
  | nan
  | infinite (negative : Bool)
  | finite (negative : Bool) (mantissa : Nat) (exponent : Int)
  deriving DecidableEq, Repr

def floatValue (x : Float) : FloatValue :=
  let bits := x.toBits.toNat
  let negative : Bool := Nat.pow 2 63 ≤ bits
  let exponent : Nat := bits / Nat.pow 2 52 % Nat.pow 2 11
  let fraction := bits % Nat.pow 2 52
  if exponent = 2047 then
    if fraction = 0 then .infinite negative else .nan
  else if exponent = 0 then .finite negative fraction (-1074)
  else .finite negative (Nat.pow 2 52 + fraction) ((exponent : Int) - 1075)

def quotientOf (mantissa : Nat) (exponent : Int) : Nat × Nat :=
  if 0 ≤ exponent then (mantissa * Nat.pow 2 exponent.toNat, 1)
  else (mantissa, Nat.pow 2 (-exponent).toNat)

def truncate? (x : Float) : Option Int :=
  match floatValue x with
  | .finite negative mantissa exponent =>
    let (num, den) := quotientOf mantissa exponent
    some (if negative then -(num / den : Nat) else (num / den : Nat))
  | _ => none

inductive NotFinite
  | nan | infinity
  deriving DecidableEq, Repr

def NotFinite.message : NotFinite → String
  | nan => "cannot convert float NaN to integer"
  | infinity => "cannot convert float infinity to integer"

def ceiling (x : Float) : Except NotFinite Int :=
  match floatValue x with
  | .nan => .error .nan
  | .infinite _ => .error .infinity
  | .finite negative mantissa exponent =>
    let (num, den) := quotientOf mantissa exponent
    .ok (if negative then -(num / den : Nat) else ((num + den - 1) / den : Nat))

/-- The nearest integer to a quotient, a half going to the even one. -/
def roundQuotient (num den : Nat) : Nat :=
  let whole := num / den
  let rest := 2 * (num % den)
  if rest < den then whole
  else if den < rest then whole + 1
  else if whole % 2 = 0 then whole else whole + 1

/-- The exponent at which the quotient has a mantissa of 53 bits, or as many as there are. -/
def nearestExponent (num den : Nat) : Int :=
  let low := max (num.log2 - den.log2 - 53 : Int) (-1074)
  let (n, d) :=
    if 0 ≤ low then (num, den * Nat.pow 2 low.toNat) else (num * Nat.pow 2 (-low).toNat, den)
  if Nat.pow 2 53 ≤ n / d then low + 1 else low

/-- The float nearest to a quotient, ties going to an even mantissa. -/
def nearestFloat (num den : Nat) : Float :=
  let exponent := nearestExponent num den
  let mantissa :=
    if 0 ≤ exponent then roundQuotient num (den * Nat.pow 2 exponent.toNat)
    else roundQuotient (num * Nat.pow 2 (-exponent).toNat) den
  if mantissa < Nat.pow 2 52 then Float.ofBits (UInt64.ofNat mantissa)
  else
    let bits := (exponent + 1075).toNat * Nat.pow 2 52 + (mantissa - Nat.pow 2 52)
    if 2047 * Nat.pow 2 52 ≤ bits then Float.ofBits 0x7ff0000000000000
    else Float.ofBits (UInt64.ofNat bits)

def nearestOfInt (num : Int) (den : Nat) : Float :=
  if num < 0 then -nearestFloat num.natAbs den else nearestFloat num.natAbs den

/-- The float nearest to `digits * 10 ^ exponent`; far beyond the range there is nothing to
compute. -/
def nearestDecimal (digits : Nat) (exponent : Int) : Float :=
  if digits = 0 then 0
  else if 400 < (digits.log2 / 10 * 3 : Nat) + exponent then Float.ofBits 0x7ff0000000000000
  else if (digits.log2 / 3 + 1 : Nat) + exponent < -400 then 0
  else if 0 ≤ exponent then nearestFloat (digits * Nat.pow 10 exponent.toNat) 1
  else nearestFloat digits (Nat.pow 10 (-exponent).toNat)

/-- The remainder of a number by a positive one, brought up to the range of the divisor; the sum
that lifts a negative remainder is rounded. -/
def modulo (x y : Float) : Float :=
  match floatValue x, floatValue y with
  | .finite negative m e, .finite _ n f =>
    let low := min e f
    let remainder := m * Nat.pow 2 (e - low).toNat % (n * Nat.pow 2 (f - low).toNat)
    let (num, den) := quotientOf remainder low
    let rest := nearestFloat num den
    if remainder = 0 then 0 else if negative then -rest + y else rest
  | _, _ => Float.ofBits 0x7ff8000000000000

end GlyphAlgebra
