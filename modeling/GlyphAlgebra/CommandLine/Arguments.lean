import GlyphAlgebra.CommandLine.Options
import GlyphAlgebra.Number.Reader
import GlyphAlgebra.Renderer

namespace GlyphAlgebra

inductive OptionProblem
  | valueMissing
  | valueIgnored (text : String)
  | notANumber (text : String)
  | notPositive (text : String)
  | notAChoice (text : String)
  deriving DecidableEq, Repr

inductive UsageError
  | ambiguous (e : AmbiguousOption)
  | option (key : OptionKey) (problem : OptionProblem)
  | expressionMissing
  | unrecognized (arguments : List String)
  deriving DecidableEq, Repr

def OptionProblem.message : OptionProblem → String
  | valueMissing => "expected one argument"
  | valueIgnored text => s!"ignored explicit argument {quoted text}"
  | notANumber text => s!"not a number: {quoted text}"
  | notPositive text => s!"font size must be positive, got {text}"
  | notAChoice text =>
    s!"invalid choice: {quoted text} (choose from " ++ ", ".intercalate (schemeNames.map quoted)
      ++ ")"

def UsageError.message : UsageError → String
  | ambiguous e =>
    s!"ambiguous option: {e.written} could match " ++ ", ".intercalate e.candidates
  | option key problem => s!"argument {key.displayName}: {problem.message}"
  | expressionMissing => "the following arguments are required: expression"
  | unrecognized arguments => "unrecognized arguments: " ++ " ".intercalate arguments

/-- What the command line asks for; an option that has lost its value asks for nothing. -/
structure Arguments where
  expression : String
  output : Option String
  fontSize : Option Float
  fontFamily : Option String
  colors : Option String
  showsCallForm : Bool
  showsInfixForm : Bool
  showsPrefixForm : Bool
  verbose : Bool
  deriving DecidableEq, Repr

/-- Reading the arguments ends early at an error or at a call for help. -/
inductive ArgumentStop
  | help
  | usage (e : UsageError)
  deriving DecidableEq, Repr

/-- What has been read: the options so far, the expression, and what nothing asked for. -/
structure ArgumentReading where
  options : Arguments
  expression : Option String
  extras : List String
  deriving DecidableEq, Repr

def Arguments.usual : Arguments :=
  ⟨"", none, some defaultFontSize, some defaultFontFamily, some defaultSchemeName,
    false, false, false, false⟩

def ArgumentReading.start : ArgumentReading :=
  ⟨.usual, none, []⟩

def OptionKey.stop {α : Type} (key : OptionKey) (problem : OptionProblem) :
    Except ArgumentStop α :=
  .error (.usage (.option key problem))

def readSize (text : String) : Except OptionProblem Float :=
  match readNumber text with
  | none => .error (.notANumber text)
  | some size => if 0 < size then .ok size else .error (.notPositive text)

def readSchemeName (text : String) : Except OptionProblem String :=
  if schemeNames.contains text then .ok text else .error (.notAChoice text)

def OptionKey.value {α : Type} (key : OptionKey) (read : String → Except OptionProblem α) :
    Option String → Except ArgumentStop (Option α)
  | none => .ok none
  | some text =>
    match read text with
    | .ok value => .ok (some value)
    | .error problem => key.stop problem

def Arguments.set (a : Arguments) (key : OptionKey) (value : Option String) :
    Except ArgumentStop Arguments :=
  match key with
  | .help => .error .help
  | .output => .ok { a with output := value }
  | .fontSize => do return { a with fontSize := ← key.value readSize value }
  | .fontFamily => .ok { a with fontFamily := value }
  | .colors => do return { a with colors := ← key.value readSchemeName value }
  | .callForm => .ok { a with showsCallForm := true }
  | .infixForm => .ok { a with showsInfixForm := true }
  | .prefixForm => .ok { a with showsPrefixForm := true }
  | .verbose => .ok { a with verbose := true }

/-- The options that one argument stands for, when short ones are written together: those that
take no value, then perhaps one that needs a value, attached or not. -/
structure OptionCluster where
  flags : List OptionKey
  valued : Option (OptionKey × Option (List Char))

def OptionCluster.addFlag (key : OptionKey) (c : OptionCluster) : OptionCluster :=
  { c with flags := key :: c.flags }

/-- Reads on inside an argument, behind a short option that takes no value. -/
def clusterTailOptions (key : OptionKey) : List Char → Except ArgumentStop OptionCluster
  | [] => .ok ⟨[key], none⟩
  | c :: rest =>
    match exactOption? ['-', c] with
    | none => key.stop (.valueIgnored (String.ofList (c :: rest)))
    | some next =>
      if next.takesValue then .ok ⟨[key], some (next, if rest = [] then none else some rest)⟩
      else (clusterTailOptions next rest).map (.addFlag key)

/-- Reads one argument that is an option, with what is attached to it. -/
def optionCluster (key : OptionKey) (short : Bool) :
    Option (List Char) → Except ArgumentStop OptionCluster
  | none => .ok (if key.takesValue then ⟨[], some (key, none)⟩ else ⟨[key], none⟩)
  | some value =>
    if key.takesValue then .ok ⟨[], some (key, some value)⟩
    else if short && value ≠ [] then clusterTailOptions key value
    else key.stop (.valueIgnored (String.ofList value))

/-- Two hyphens in the place of a value take it away. -/
def attachedValue (cs : List Char) : Option String :=
  if cs = ['-', '-'] then none else some (String.ofList cs)

/-- A needed value that is not attached is the next argument, which has to be plain. -/
def OptionCluster.complete (c : OptionCluster) (next : Option (String × ArgumentShape)) :
    Except ArgumentStop (List (OptionKey × Option String) × Bool) :=
  let flags := c.flags.map (·, none)
  match c.valued, next with
  | none, _ => .ok (flags, false)
  | some (key, some value), _ => .ok (flags ++ [(key, attachedValue value)], false)
  | some (key, none), some (value, .plain) => .ok (flags ++ [(key, some value)], true)
  | some (key, none), _ => key.stop .valueMissing

/-- The last arguments hold no option: the expression, if it is still to come, and extras. -/
def ArgumentReading.finish (r : ArgumentReading) (rest : List (String × ArgumentShape)) :
    ArgumentReading :=
  match r.expression, rest with
  | none, (_, .separator) :: (text, _) :: rest =>
    { r with expression := some text, extras := r.extras ++ rest.map (·.1) }
  | none, (text, .plain) :: (_, .separator) :: rest =>
    { r with expression := some text, extras := r.extras ++ rest.map (·.1) }
  | none, (text, .plain) :: rest =>
    { r with expression := some text, extras := r.extras ++ rest.map (·.1) }
  | _, rest => { r with extras := r.extras ++ rest.map (·.1) }

def isOptionShape : ArgumentShape → Bool
  | .option _ _ _ | .unknown => true
  | .plain | .separator => false

/-- Takes the arguments in order; before an option, the first plain one is the expression. -/
def readArgumentShapes (r : ArgumentReading) :
    List (String × ArgumentShape) → Except ArgumentStop ArgumentReading
  | [] => .ok r
  | (text, .unknown) :: rest => readArgumentShapes { r with extras := r.extras ++ [text] } rest
  | (_, .option key short value) :: rest => do
    let cluster ← optionCluster key short value
    let (settings, usesNext) ← cluster.complete rest.head?
    let options ← settings.foldlM (fun a (key, value) => a.set key value) r.options
    let r := { r with options := options }
    match rest with
    | [] => .ok r
    | next :: later =>
      if usesNext then readArgumentShapes r later else readArgumentShapes r (next :: later)
  | (text, shape) :: rest =>
    if rest.any (isOptionShape ·.2) then
      match r.expression with
      | none => readArgumentShapes { r with expression := some text } rest
      | some _ => readArgumentShapes { r with extras := r.extras ++ [text] } rest
    else .ok (r.finish ((text, shape) :: rest))

def parseArguments (arguments : List String) : Except ArgumentStop Arguments := do
  let shapes ← (argumentShapes arguments).mapError fun e => .usage (.ambiguous e)
  let r ← readArgumentShapes .start shapes
  match r.expression, r.extras with
  | none, _ => .error (.usage .expressionMissing)
  | some expression, [] => return { r.options with expression := expression }
  | some _, extras => .error (.usage (.unrecognized extras))

end GlyphAlgebra
