import GlyphAlgebra.CommandLine.Arguments

namespace GlyphAlgebra

/-- Whether an option asks for a printed form of the expression. -/
def OptionKey.isForm : OptionKey → Bool
  | callForm | infixForm | prefixForm => true
  | help | output | fontSize | fontFamily | colors | verbose => false

def Arguments.shows (a : Arguments) : OptionKey → Bool
  | .callForm => a.showsCallForm
  | .infixForm => a.showsInfixForm
  | .prefixForm => a.showsPrefixForm
  | _ => false

/-- What the readers of the values let through. -/
structure Arguments.Sound (a : Arguments) : Prop where
  size : ∀ size ∈ a.fontSize, 0 < size
  scheme : ∀ name ∈ a.colors, name ∈ schemeNames

/-- Options after some more of them, among which the forms asked for are these. -/
structure Arguments.Sets (a : Arguments) (asked : OptionKey → Bool) (a' : Arguments) : Prop where
  shows : ∀ form, form.isForm = true → a'.shows form = (a.shows form || asked form)
  sound : a.Sound → a'.Sound

theorem readSize_positive {text : String} {size : Float} (h : readSize text = .ok size) :
    0 < size := by
  unfold readSize at h
  split at h
  next => exact nomatch h
  next =>
    split at h
    next hpositive => cases h; exact hpositive
    next => exact nomatch h

namespace Arguments

variable {a a' a'' : Arguments} {asked asked' : OptionKey → Bool} {key : OptionKey}

theorem Sets.refl (h : ∀ form, form.isForm = true → asked form = false) : a.Sets asked a :=
  ⟨fun form hform => by rw [h form hform, Bool.or_false], id⟩

theorem Sets.trans (h : a.Sets asked a') (h' : a'.Sets asked' a'') :
    a.Sets (fun form => asked form || asked' form) a'' :=
  ⟨fun form hform => by rw [h'.shows form hform, h.shows form hform, Bool.or_assoc],
    h'.sound ∘ h.sound⟩

theorem Sets.congr (h : a.Sets asked a')
    (hasked : ∀ form, form.isForm = true → asked form = asked' form) : a.Sets asked' a' :=
  ⟨fun form hform => by rw [h.shows form hform, hasked form hform], h.sound⟩

end Arguments

namespace OptionCluster

variable {key : OptionKey} {c : OptionCluster}

end OptionCluster

namespace ArgumentReading

variable {r r' : ArgumentReading} {shapes rest : List (String × ArgumentShape)}

end ArgumentReading

end GlyphAlgebra
