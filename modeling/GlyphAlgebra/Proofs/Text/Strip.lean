import GlyphAlgebra.Text.Blank
import Mathlib.Data.List.TakeWhile

namespace GlyphAlgebra

/-- No character of a kind stands at either end. -/
structure Flush (p : Char → Bool) (cs : List Char) : Prop where
  first : ∀ c, cs.head? = some c → p c = false
  last : ∀ c, cs.getLast? = some c → p c = false

/-- The core is what is left of a text without the characters of a kind at its ends. -/
structure Trims (p : Char → Bool) (cs core : List Char) : Prop where
  around : ∃ front back, cs = front ++ core ++ back ∧ ∀ c ∈ front ++ back, p c = true
  flush : Flush p core

variable {p : Char → Bool} {cs core front back : List Char}

theorem flush_iff :
    Flush p cs ↔ cs.head?.all (!p ·) = true ∧ cs.getLast?.all (!p ·) = true := by
  simp only [Option.all_eq_true, Bool.not_eq_true']
  exact ⟨fun h => ⟨h.first, h.last⟩, fun h => ⟨h.1, h.2⟩⟩

instance : Decidable (Flush p cs) :=
  decidable_of_iff _ flush_iff.symm

theorem head?_dropWhile {c : Char} (h : (cs.dropWhile p).head? = some c) : p c = false := by
  have hnot := List.head?_dropWhile_not p cs
  rw [h] at hnot
  exact hnot

theorem dropWhile_flush (hfirst : ∀ c, cs.head? = some c → p c = false) :
    cs.dropWhile p = cs := by
  cases cs with
  | nil => rfl
  | cons c cs => rw [List.dropWhile_cons_of_neg (by rw [hfirst c rfl]; nofun)]

theorem strip_append (hfront : ∀ c ∈ front, p c = true) (hback : ∀ c ∈ back, p c = true)
    (hflush : Flush p core) : strip p (front ++ core ++ back) = core := by
  have hlast : ∀ c, core.reverse.head? = some c → p c = false := by
    intro c hc
    rw [List.head?_reverse] at hc
    exact hflush.last c hc
  have hback' : ∀ c ∈ back.reverse, p c = true := fun c hc => hback c (List.mem_reverse.mp hc)
  rw [strip, List.append_assoc, List.dropWhile_append_of_pos hfront]
  cases core with
  | nil =>
    have hnone : back.dropWhile p = [] := List.dropWhile_eq_nil_iff.mpr hback
    rw [List.nil_append, hnone]
    rfl
  | cons c core =>
    have hfirst : p c = false := hflush.first c rfl
    rw [List.cons_append, List.dropWhile_cons_of_neg (by rw [hfirst]; nofun), ← List.cons_append,
      List.reverse_append, List.dropWhile_append_of_pos hback', dropWhile_flush hlast,
      List.reverse_reverse]

/-- Stripping a text leaves its core. -/
theorem strip_trims (p : Char → Bool) (cs : List Char) : Trims p cs (strip p cs) := by
  have hsplit := List.takeWhile_append_dropWhile (p := p) (l := cs)
  have hback := congrArg List.reverse
    (List.takeWhile_append_dropWhile (p := p) (l := (cs.dropWhile p).reverse))
  rw [List.reverse_append, List.reverse_reverse] at hback
  have hcore : cs.dropWhile p =
      strip p cs ++ ((cs.dropWhile p).reverse.takeWhile p).reverse := hback.symm
  refine ⟨⟨cs.takeWhile p, ((cs.dropWhile p).reverse.takeWhile p).reverse, ?_, ?_⟩, ?_, ?_⟩
  · rw [List.append_assoc, ← hcore, hsplit]
  · intro c hc
    rcases List.mem_append.mp hc with hc | hc
    · exact List.mem_takeWhile_imp hc
    · exact List.mem_takeWhile_imp (List.mem_reverse.mp hc)
  · intro c hc
    obtain ⟨cs', hcs'⟩ := List.head?_eq_some_iff.mp hc
    have hhead : (cs.dropWhile p).head? = some c := by rw [hcore, hcs']; rfl
    exact head?_dropWhile hhead
  · intro c hc
    rw [strip, List.getLast?_reverse] at hc
    exact head?_dropWhile hc

theorem strip_eq_iff : strip p cs = core ↔ Trims p cs core := by
  constructor
  · rintro rfl
    exact strip_trims p cs
  · rintro ⟨⟨front, back, rfl, hends⟩, hflush⟩
    exact strip_append (fun c hc => hends c (List.mem_append_left _ hc))
      (fun c hc => hends c (List.mem_append_right _ hc)) hflush

/-- Characters of the kind around a text do not matter to its core. -/
theorem strip_around (hfront : ∀ c ∈ front, p c = true) (hback : ∀ c ∈ back, p c = true) :
    strip p (front ++ cs ++ back) = strip p cs := by
  obtain ⟨⟨f, b, hcs, hends⟩, hflush⟩ := strip_trims p cs
  refine strip_eq_iff.mpr ⟨⟨front ++ f, b ++ back, ?_, ?_⟩, hflush⟩
  · calc front ++ cs ++ back = front ++ (f ++ strip p cs ++ b) ++ back := by rw [← hcs]
      _ = front ++ f ++ strip p cs ++ (b ++ back) := by simp only [List.append_assoc]
  · intro c hc
    simp only [List.append_assoc, List.mem_append] at hc hends
    rcases hc with hc | hc | hc | hc
    · exact hfront c hc
    · exact hends c (.inl hc)
    · exact hends c (.inr hc)
    · exact hback c hc

theorem mem_of_mem_strip {c : Char} (hc : c ∈ strip p cs) : c ∈ cs := by
  unfold strip at hc
  have hc := (List.dropWhile_sublist p).mem (List.mem_reverse.mp hc)
  exact (List.dropWhile_sublist p).mem (List.mem_reverse.mp hc)

theorem strip_ne_nil {c : Char} (hc : c ∈ cs) (hp : p c = false) : strip p cs ≠ [] := by
  intro hnil
  obtain ⟨⟨front, back, hcs, hends⟩, -⟩ := strip_trims p cs
  rw [hnil, List.append_nil] at hcs
  rw [hcs] at hc
  rw [hends c hc] at hp
  cases hp

end GlyphAlgebra
