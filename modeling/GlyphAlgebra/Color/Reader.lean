import GlyphAlgebra.Color
import GlyphAlgebra.Color.Named
import GlyphAlgebra.Text.Blank
import GlyphAlgebra.Text.Digit
import GlyphAlgebra.Text.Lowercase
import GlyphAlgebra.Text.Quoted

namespace GlyphAlgebra

inductive ColorTextError
  | tooLong
  | unknown (text : String)
  deriving DecidableEq, Repr

def ColorTextError.message : ColorTextError → String
  | tooLong => "color specifier is too long"
  | unknown text => s!"unknown color specifier: {quoted text}"

/-- A color text may end in one newline. -/
def endsHere (cs : List Char) : Bool :=
  cs = [] || cs = ['\n']

def dropText? : List Char → List Char → Option (List Char)
  | [], cs => some cs
  | w :: ws, c :: cs => if w = c then dropText? ws cs else none
  | _ :: _, [] => none

abbrev ArgumentReader (α : Type) := List Char → Option (α × List Char)

def readDigits : ArgumentReader (List Char) := fun cs =>
  match cs.takeWhile isDecimalDigit with
  | [] => none
  | digits => some (digits, cs.dropWhile isDecimalDigit)

def readWhole : ArgumentReader Nat := fun cs =>
  (readDigits cs).map fun (digits, rest) => (digitsValue digits, rest)

/-- A decimal needs digits before its point, and may end in the point. -/
def readDecimal : ArgumentReader Float := fun cs =>
  (readDigits cs).map fun (whole, rest) =>
    match rest with
    | '.' :: rest =>
      let fraction := rest.takeWhile isDecimalDigit
      (nearestDecimal (digitsValue (whole ++ fraction)) (-fraction.length),
        rest.dropWhile isDecimalDigit)
    | _ => (nearestDecimal (digitsValue whole) 0, rest)

def percentOf {α : Type} (read : ArgumentReader α) : ArgumentReader α := fun cs =>
  match read cs with
  | some (v, '%' :: rest) => some (v, rest)
  | _ => none

def readArguments {α : Type} : List (ArgumentReader α) → List Char → Option (List α)
  | [], _ => none
  | read :: reads, cs => do
    let (v, rest) ← read (cs.dropWhile isBlank)
    match reads, rest.dropWhile isBlank with
    | [], ')' :: rest => if endsHere rest then some [v] else none
    | _, ',' :: rest => return v :: (← readArguments reads rest)
    | _, _ => none

def readCall {α : Type} (name : String) (reads : List (ArgumentReader α)) (cs : List Char) :
    Option (List α) := do
  let rest ← dropText? name.toList cs
  readArguments reads (← dropText? ['('] rest)

def hexValue? (c : Char) : Option Nat :=
  if '0' ≤ c ∧ c ≤ '9' then some (c.toNat - '0'.toNat)
  else if 'a' ≤ c ∧ c ≤ 'f' then some (c.toNat - 'a'.toNat + 10)
  else none

/-- Channels in base sixteen, of one digit each or of two. -/
def readHex (cs : List Char) : Option (List Int) := do
  let rest ← dropText? ['#'] cs
  let digits ← (if rest.getLast? = some '\n' then rest.dropLast else rest).mapM hexValue?
  match digits with
  | [r, g, b] => some [17 * r, 17 * g, 17 * b]
  | [r, g, b, a] => some [17 * r, 17 * g, 17 * b, 17 * a]
  | [r, r', g, g', b, b'] => some [16 * r + r', 16 * g + g', 16 * b + b']
  | [r, r', g, g', b, b', a, a'] => some [16 * r + r', 16 * g + g', 16 * b + b', 16 * a + a']
  | _ => none

def readNamed (cs : List Char) : Option (List Int) :=
  (namedColors.lookup (String.ofList cs)).map fun v =>
    [(v / 0x10000 : Nat), (v / 0x100 % 0x100 : Nat), (v % 0x100 : Nat)]

def channelOfUnit (v : Float) : Int :=
  (truncate? (v * 255 + 0.5)).getD 0

/-- A percentage of a full channel, a half rounded up. -/
def channelOfPercent (percent : Nat) : Int :=
  (truncate? (nearestFloat (percent * 255) 1 / 100.0 + 0.5)).getD 0

def channelsOf (c : Float × Float × Float) : List Int :=
  [channelOfUnit c.1, channelOfUnit c.2.1, channelOfUnit c.2.2]

/-- Red, green and blue of a hue in turns, a saturation and a value. -/
def rgbOfHsv (hue saturation value : Float) : Float × Float × Float :=
  if saturation == 0 then (value, value, value)
  else
    let sector := (truncate? (hue * 6.0)).getD 0
    let f := hue * 6.0 - nearestOfInt sector 1
    let p := value * (1.0 - saturation)
    let q := value * (1.0 - saturation * f)
    let t := value * (1.0 - saturation * (1.0 - f))
    match (sector % 6).toNat with
    | 0 => (value, t, p)
    | 1 => (q, value, p)
    | 2 => (p, value, t)
    | 3 => (p, q, value)
    | 4 => (t, p, value)
    | _ => (value, p, q)

def hueArguments : List (ArgumentReader Float) :=
  [readDecimal, percentOf readDecimal, percentOf readDecimal]

def readHsl (cs : List Char) : Option (List Int) :=
  match readCall "hsl" hueArguments cs with
  | some [h, s, l] => some (channelsOf (rgbOfHls (h / 360.0) (l / 100.0) (s / 100.0)))
  | _ => none

def readHsv (name : String) (cs : List Char) : Option (List Int) :=
  match readCall name hueArguments cs with
  | some [h, s, v] => some (channelsOf (rgbOfHsv (h / 360.0) (s / 100.0) (v / 100.0)))
  | _ => none

/-- The channels of a color text in small letters; a full alpha may be left out. -/
def readChannels (cs : List Char) : Option (List Int) :=
  readNamed cs
  <|> readHex cs
  <|> (readCall "rgb" (List.replicate 3 readWhole) cs).map (·.map Int.ofNat)
  <|> (readCall "rgb" (List.replicate 3 (percentOf readWhole)) cs).map (·.map channelOfPercent)
  <|> readHsl cs
  <|> readHsv "hsv" cs
  <|> readHsv "hsb" cs
  <|> (readCall "rgba" (List.replicate 4 readWhole) cs).map (·.map Int.ofNat)

def channelShare (n : Int) : Float :=
  nearestOfInt n 255

def Rgb.ofText (text : String) : Except ColorTextError Rgb :=
  if 100 < text.length then .error .tooLong
  else
    let cs := lowercase text.toList
    match readChannels cs with
    | some [r, g, b] => .ok ⟨channelShare r, channelShare g, channelShare b, channelShare 255⟩
    | some [r, g, b, a] => .ok ⟨channelShare r, channelShare g, channelShare b, channelShare a⟩
    | _ => .error (.unknown (String.ofList cs))

end GlyphAlgebra
