import GlyphAlgebra.Operator
import GlyphAlgebra.Text.Blank
import GlyphAlgebra.Text.Cluster

namespace GlyphAlgebra

inductive Token
  | literal (text : String)
  | opening
  | closing
  | operator (op : Operator)
  deriving DecidableEq, Repr

def Token.text : Token → String
  | literal text => text
  | opening => "("
  | closing => ")"
  | operator op => op.symbol

/-- A token and the number of characters before it. -/
structure PlacedToken where
  token : Token
  offset : Nat
  deriving DecidableEq, Repr

def symbolToken? : Char → Option Token
  | '(' => some .opening
  | ')' => some .closing
  | '+' => some (.operator .add)
  | '-' => some (.operator .sub)
  | '&' => some (.operator .and)
  | '|' => some (.operator .or)
  | '^' => some (.operator .xor)
  | _ => none

def nextToken (c : Char) (cs : List Char) : Token × List Char :=
  match symbolToken? c, cs with
  | some (.operator .or), '|' :: rest => (.operator .concat, rest)
  | some token, _ => (token, cs)
  | none, _ => (.literal (String.ofList (splitCluster c cs).1), (splitCluster c cs).2)

theorem symbolToken?_text {c : Char} {t : Token} (h : symbolToken? c = some t) :
    t.text.toList = [c] := by
  unfold symbolToken? at h
  split at h <;> cases h <;> rfl

theorem nextToken_append (c : Char) (cs : List Char) :
    (nextToken c cs).1.text.toList ++ (nextToken c cs).2 = c :: cs := by
  unfold nextToken
  split
  next h =>
    have hc : ['|'] = [c] := symbolToken?_text h
    cases hc
    simp [Token.text, Operator.symbol]
  next h _ => rw [symbolToken?_text h]; rfl
  next => simp [Token.text, splitCluster, clusterTail_append]

theorem nextToken_rest_length (c : Char) (cs : List Char) :
    (nextToken c cs).2.length ≤ cs.length := by
  unfold nextToken
  split
  · simp
  · exact Nat.le_refl _
  · exact splitCluster_rest_length c _

/-- Divides a text into its tokens; white space between them is dropped. -/
def scanFrom (offset : Nat) : List Char → List PlacedToken
  | [] => []
  | c :: cs =>
    if isSpacing c then scanFrom (offset + 1) cs
    else
      have := nextToken_rest_length c cs
      ⟨(nextToken c cs).1, offset⟩
        :: scanFrom (offset + (nextToken c cs).1.text.length) (nextToken c cs).2
termination_by cs => cs.length
decreasing_by all_goals simp only [List.length_cons]; omega

def scan (text : String) : List PlacedToken :=
  scanFrom 0 text.toList

end GlyphAlgebra
