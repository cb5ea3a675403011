import GlyphAlgebra.Text.Digit

namespace GlyphAlgebra

inductive OptionKey
  | help | output | fontSize | fontFamily | colors | callForm | infixForm | prefixForm | verbose
  deriving DecidableEq, Repr

/-- All spellings of the options, in the order in which they are listed. -/
def optionSpellings : List (String × OptionKey) :=
  [("-h", .help), ("--help", .help), ("-o", .output), ("--output", .output),
   ("--font-size", .fontSize), ("--font-family", .fontFamily), ("--colors", .colors),
   ("--repr", .callForm), ("--pretty", .infixForm), ("--polish", .prefixForm), ("-v", .verbose),
   ("--verbose", .verbose)]

namespace OptionKey

def takesValue : OptionKey → Bool
  | output | fontSize | fontFamily | colors => true
  | help | callForm | infixForm | prefixForm | verbose => false

def displayName (key : OptionKey) : String :=
  "/".intercalate ((optionSpellings.filter (·.2 = key)).map (·.1))

end OptionKey

inductive ArgumentShape
  | plain
  /-- The two hyphens behind which all is plain. -/
  | separator
  /-- The value is what is attached to the option, behind an equals sign or without one. -/
  | option (key : OptionKey) (short : Bool) (value : Option (List Char))
  | unknown
  deriving DecidableEq, Repr

structure AmbiguousOption where
  written : String
  candidates : List String
  deriving DecidableEq, Repr

def exactOption? (cs : List Char) : Option OptionKey :=
  optionSpellings.lookup (String.ofList cs)

def isShortSpelling (cs : List Char) : Bool :=
  cs[1]? ≠ some '-'

def splitEquals (cs : List Char) : List Char × Option (List Char) :=
  match cs.dropWhile (· ≠ '=') with
  | [] => (cs, none)
  | _ :: value => (cs.takeWhile (· ≠ '='), some value)

/-- Whether a text is a whole number or a decimal with a minus sign; a newline may follow. -/
def looksNegative (cs : List Char) : Bool :=
  match cs with
  | '-' :: rest =>
    let rest := if rest.getLast? = some '\n' then rest.dropLast else rest
    match rest.takeWhile isDecimalDigit, rest.dropWhile isDecimalDigit with
    | whole, [] => whole ≠ []
    | _, '.' :: fraction => fraction ≠ [] && fraction.all isDecimalDigit
    | _, _ => false
  | _ => false

def abbreviated (cs : List Char) : List (String × OptionKey × Option (List Char)) :=
  if isShortSpelling cs then
    (optionSpellings.filter (·.1.toList = cs.take 2)).map fun (spelling, key) =>
      (spelling, key, some (cs.drop 2))
  else
    let (name, value) := splitEquals cs
    (optionSpellings.filter fun entry => name.isPrefixOf entry.1.toList).map
      fun (spelling, key) => (spelling, key, value)

/-- An option may be written in full, with an attached value, or shortened as long as it stays
clear which is meant. Negative numbers and what has a space in it are plain. -/
def argumentShape (cs : List Char) : Except AmbiguousOption ArgumentShape :=
  if cs.head? ≠ some '-' || cs.length = 1 then .ok .plain
  else
    match exactOption? cs, splitEquals cs with
    | some key, _ => .ok (.option key (isShortSpelling cs) none)
    | none, (name, value) =>
      match exactOption? name, value with
      | some key, some value => .ok (.option key (isShortSpelling name) (some value))
      | _, _ =>
        match abbreviated cs with
        | [(_, key, value)] => .ok (.option key (isShortSpelling cs) value)
        | [] => .ok (if looksNegative cs || cs.contains ' ' then .plain else .unknown)
        | several => .error ⟨String.ofList cs, several.map (·.1)⟩

/-- The shapes of all arguments; two hyphens alone make all that follows plain. -/
def argumentShapes : List String → Except AmbiguousOption (List (String × ArgumentShape))
  | [] => .ok []
  | argument :: rest =>
    if argument = "--" then .ok ((argument, .separator) :: rest.map (·, .plain))
    else do
      let shape ← argumentShape argument.toList
      return (argument, shape) :: (← argumentShapes rest)

end GlyphAlgebra
