import GlyphAlgebra.Text.Cluster.Table

namespace GlyphAlgebra

/-- What matters of a code point for the borders of user-perceived characters. -/
inductive BreakClass
  | other | cr | lf | control | extend | joiner | prepend | spacingMark
  | leadingJamo | vowelJamo | trailingJamo | openSyllable | closedSyllable
  | regional | picture
  deriving DecidableEq, Repr

/-- Precomposed syllables come in blocks of 28, of which the first has no trailing consonant. -/
def syllableClass (n : Nat) : BreakClass :=
  if (n - 0xac00) % 28 = 0 then .openSyllable else .closedSyllable

def breakClass (c : Char) : BreakClass :=
  let n := c.toNat
  if n = 0xd then .cr
  else if n = 0xa then .lf
  else if n = 0x200d then .joiner
  else if extendRanges.covers n then .extend
  else if 0x1f1e6 ≤ n && n ≤ 0x1f1ff then .regional
  else if prependRanges.covers n then .prepend
  else if controlRanges.covers n then .control
  else if spacingMarkRanges.covers n then .spacingMark
  else if leadingJamoRanges.covers n then .leadingJamo
  else if vowelJamoRanges.covers n then .vowelJamo
  else if trailingJamoRanges.covers n then .trailingJamo
  else if 0xac00 ≤ n && n ≤ 0xd7a3 then syllableClass n
  else if pictureRanges.covers n then .picture
  else .other

/-- A picture with its marks is shown; a joiner behind it ties it to the next picture. -/
inductive PictureRun
  | absent | shown | tied
  deriving DecidableEq, Repr

/-- What the end of a cluster remembers of the characters before it. -/
structure ClusterEnd where
  last : BreakClass
  picture : PictureRun
  /-- The run of regional indicators at the end is of odd length. -/
  unpaired : Bool
  deriving DecidableEq, Repr

def PictureRun.next : PictureRun → BreakClass → PictureRun
  | _, .picture => .shown
  | .shown, .extend => .shown
  | .shown, .joiner => .tied
  | _, _ => .absent

def ClusterEnd.start (c : BreakClass) : ClusterEnd :=
  ⟨c, PictureRun.absent.next c, c = .regional⟩

def ClusterEnd.next (e : ClusterEnd) (c : BreakClass) : ClusterEnd :=
  ⟨c, e.picture.next c, c = .regional && !(e.last = .regional && e.unpaired)⟩

/-- Whether no border lies between the end of a cluster and the next code point. -/
def ClusterEnd.joins (e : ClusterEnd) : BreakClass → Bool
  | .lf => e.last = .cr
  | .cr | .control => false
  | .extend | .joiner | .spacingMark => e.last ≠ .cr ∧ e.last ≠ .lf ∧ e.last ≠ .control
  | c =>
    match e.last, c with
    | .prepend, _ => true
    | .leadingJamo, .leadingJamo | .leadingJamo, .vowelJamo
    | .leadingJamo, .openSyllable | .leadingJamo, .closedSyllable => true
    | .openSyllable, .vowelJamo | .openSyllable, .trailingJamo
    | .vowelJamo, .vowelJamo | .vowelJamo, .trailingJamo => true
    | .closedSyllable, .trailingJamo | .trailingJamo, .trailingJamo => true
    | .joiner, .picture => e.picture = .tied
    | .regional, .regional => e.unpaired
    | _, _ => false

def clusterTail (e : ClusterEnd) : List Char → List Char × List Char
  | [] => ([], [])
  | c :: cs =>
    if e.joins (breakClass c) then
      let (tail, rest) := clusterTail (e.next (breakClass c)) cs
      (c :: tail, rest)
    else ([], c :: cs)

def splitCluster (c : Char) (cs : List Char) : List Char × List Char :=
  let (tail, rest) := clusterTail (.start (breakClass c)) cs
  (c :: tail, rest)

theorem clusterTail_append (e : ClusterEnd) (cs : List Char) :
    (clusterTail e cs).1 ++ (clusterTail e cs).2 = cs := by
  induction cs generalizing e with
  | nil => rfl
  | cons c cs ih =>
    simp only [clusterTail]
    split
    · simp [ih]
    · rfl

theorem splitCluster_rest_length (c : Char) (cs : List Char) :
    (splitCluster c cs).2.length ≤ cs.length := by
  have h := congrArg List.length (clusterTail_append (.start (breakClass c)) cs)
  simp only [List.length_append] at h
  simp only [splitCluster]
  omega

end GlyphAlgebra
