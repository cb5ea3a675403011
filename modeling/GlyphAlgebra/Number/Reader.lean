import GlyphAlgebra.Number.Exact
import GlyphAlgebra.Text.Blank
import GlyphAlgebra.Text.Digit

namespace GlyphAlgebra

/-- Digits of all scripts become those of base ten, and blanks beyond them become spaces. Only a
text with other than basic characters is changed. -/
def plainNumeral (cs : List Char) : List Char :=
  if cs.all (·.toNat < 128) then cs
  else cs.map fun c =>
    if c.toNat < 127 then c
    else if isBlank c then ' '
    else match digitValue? c with
      | some n => Nat.digitChar n
      | none => '?'

def isBasicSpace (c : Char) : Bool :=
  c = ' ' || (0x9 ≤ c.toNat && c.toNat ≤ 0xd)

/-- Removes underscores, each of which has to stand between two digits. -/
def dropUnderscores (afterDigit : Bool) : List Char → Option (List Char)
  | [] => some []
  | ['_'] => none
  | '_' :: c :: cs =>
    if afterDigit && c.isDigit then (dropUnderscores true cs).map (c :: ·) else none
  | c :: cs => (dropUnderscores c.isDigit cs).map (c :: ·)

def readExponent : List Char → Option Int
  | [] => some 0
  | e :: cs =>
    if e = 'e' || e = 'E' then
      let (negative, digits) :=
        match cs with
        | '-' :: rest => (true, rest)
        | '+' :: rest => (false, rest)
        | _ => (false, cs)
      if digits ≠ [] && digits.all Char.isDigit then
        some (if negative then -(digitsValue digits : Int) else digitsValue digits)
      else none
    else none

/-- Reads a number without a sign; a point needs a digit on one of its sides. -/
def readMagnitude (cs : List Char) : Option Float :=
  let whole := cs.takeWhile Char.isDigit
  let rest := cs.dropWhile Char.isDigit
  let (fraction, rest) :=
    match rest with
    | '.' :: rest => (rest.takeWhile Char.isDigit, rest.dropWhile Char.isDigit)
    | _ => ([], rest)
  if whole = [] && fraction = [] then none
  else (readExponent rest).map fun e =>
    nearestDecimal (digitsValue (whole ++ fraction)) (e - fraction.length)

def readSpecial (cs : List Char) : Option Float :=
  let word := String.ofList (cs.map Char.toLower)
  if word = "inf" || word = "infinity" then some (Float.ofBits 0x7ff0000000000000)
  else if word = "nan" then some (Float.ofBits 0x7ff8000000000000)
  else none

def readUnsigned (cs : List Char) : Option Float :=
  readMagnitude cs <|> readSpecial cs

def readNumber (text : String) : Option Float := do
  match ← dropUnderscores false (strip isBasicSpace (plainNumeral text.toList)) with
  | '-' :: cs => (readUnsigned cs).map (-·)
  | '+' :: cs => readUnsigned cs
  | cs => readUnsigned cs

end GlyphAlgebra
