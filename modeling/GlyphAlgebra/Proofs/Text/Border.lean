import GlyphAlgebra.Text.Cluster

namespace GlyphAlgebra

/-- These classes let nothing attach on either side, but for a newline behind its return. -/
def BreakClass.standsAlone : BreakClass → Bool
  | cr | lf | control => true
  | _ => false

/-- A picture, perhaps with marks behind it, comes right before. -/
def pictureBefore : List BreakClass → Bool
  | .picture :: _ => true
  | .extend :: before => pictureBefore before
  | _ => false

/-- How many regional indicators come right before. -/
def regionalsBefore (before : List BreakClass) : Nat :=
  (before.takeWhile (· = .regional)).length

/-- The rules by which a code point belongs to the cluster of those before it, the nearest of
which comes first. -/
inductive Attaches : List BreakClass → BreakClass → Prop
  | newline (before : List BreakClass) : Attaches (.cr :: before) .lf
  | mark {b c : BreakClass} (before : List BreakClass) (hb : b.standsAlone = false)
      (hc : c ∈ [.extend, .joiner, .spacingMark]) : Attaches (b :: before) c
  | prepended {c : BreakClass} (before : List BreakClass) (hc : c.standsAlone = false) :
      Attaches (.prepend :: before) c
  | leading {c : BreakClass} (before : List BreakClass)
      (hc : c ∈ [.leadingJamo, .vowelJamo, .openSyllable, .closedSyllable]) :
      Attaches (.leadingJamo :: before) c
  | vowel {b c : BreakClass} (before : List BreakClass) (hb : b ∈ [.vowelJamo, .openSyllable])
      (hc : c ∈ [.vowelJamo, .trailingJamo]) : Attaches (b :: before) c
  | trailing {b : BreakClass} (before : List BreakClass)
      (hb : b ∈ [.trailingJamo, .closedSyllable]) : Attaches (b :: before) .trailingJamo
  | picture {before : List BreakClass} (h : pictureBefore before = true) :
      Attaches (.joiner :: before) .picture
  | flag {before : List BreakClass} (h : regionalsBefore before % 2 = 1) :
      Attaches before .regional

/-- What the end of a cluster remembers of its classes, the last of which comes first. -/
def endOf : BreakClass → List BreakClass → ClusterEnd
  | c, [] => .start c
  | c, b :: before => (endOf b before).next c

theorem endOf_cons (c b : BreakClass) (before : List BreakClass) :
    endOf c (b :: before) = (endOf b before).next c := rfl

theorem endOf_last (c : BreakClass) (before : List BreakClass) : (endOf c before).last = c := by
  cases before <;> rfl

theorem regionalsBefore_cons (c : BreakClass) (before : List BreakClass) :
    regionalsBefore (c :: before) = if c = .regional then regionalsBefore before + 1 else 0 := by
  by_cases h : c = .regional
  · simp [regionalsBefore, h]
  · simp [regionalsBefore, h]

theorem endOf_unpaired (c : BreakClass) (before : List BreakClass) :
    (endOf c before).unpaired = true ↔ regionalsBefore (c :: before) % 2 = 1 := by
  induction before generalizing c with
  | nil => by_cases h : c = .regional <;> simp [endOf, ClusterEnd.start, regionalsBefore, h]
  | cons b before ih =>
    have hb := ih b
    rw [regionalsBefore_cons] at hb ⊢
    by_cases hc : c = .regional
    · by_cases hr : b = .regional
      · simp only [endOf, ClusterEnd.next, endOf_last, hc, hr, if_true] at hb ⊢
        rw [regionalsBefore_cons, if_pos rfl]
        cases hu : (endOf .regional before).unpaired <;> simp [hu] at hb ⊢ <;> omega
      · simp [endOf, ClusterEnd.next, endOf_last, hc, hr, regionalsBefore_cons]
    · simp [endOf, ClusterEnd.next, hc]

theorem endOf_picture (c : BreakClass) (before : List BreakClass) :
    ((endOf c before).picture = .shown ↔ pictureBefore (c :: before) = true) ∧
      ((endOf c before).picture = .tied ↔ c = .joiner ∧ pictureBefore before = true) := by
  induction before generalizing c with
  | nil => cases c <;> simp [endOf, ClusterEnd.start, PictureRun.next, pictureBefore]
  | cons b before ih =>
    obtain ⟨hshown, htied⟩ := ih b
    cases hp : (endOf b before).picture with
    | absent =>
      have hn : pictureBefore (b :: before) = false := by simpa [hp] using hshown
      cases c <;> simp [endOf, ClusterEnd.next, PictureRun.next, pictureBefore, hp, hn]
    | shown =>
      have hn : pictureBefore (b :: before) = true := hshown.mp hp
      cases c <;> simp [endOf, ClusterEnd.next, PictureRun.next, pictureBefore, hp, hn]
    | tied =>
      obtain ⟨rfl, _⟩ := htied.mp hp
      cases c <;> simp [endOf, ClusterEnd.next, PictureRun.next, pictureBefore, hp]

theorem standsAlone_eq_false {b : BreakClass} (h : b ≠ .cr ∧ b ≠ .lf ∧ b ≠ .control) :
    b.standsAlone = false := by
  obtain ⟨hcr, hlf, hcontrol⟩ := h
  cases b <;> first | rfl | contradiction

theorem attaches_of_joins {b c : BreakClass} {before : List BreakClass}
    (h : (endOf b before).joins c = true) : Attaches (b :: before) c := by
  have hl := endOf_last b before
  unfold ClusterEnd.joins at h
  split at h
  next =>
    have hb : b = .cr := by simpa [hl] using h
    subst b
    exact .newline before
  next => simp at h
  next => simp at h
  next => exact .mark before (standsAlone_eq_false (by simpa [hl] using h)) (by simp)
  next => exact .mark before (standsAlone_eq_false (by simpa [hl] using h)) (by simp)
  next => exact .mark before (standsAlone_eq_false (by simpa [hl] using h)) (by simp)
  next hlf hcr hcontrol _ _ _ =>
    rw [hl] at h
    split at h
    next => exact .prepended before (standsAlone_eq_false ⟨hcr, hlf, hcontrol⟩)
    next => exact .leading before (by simp)
    next => exact .leading before (by simp)
    next => exact .leading before (by simp)
    next => exact .leading before (by simp)
    next => exact .vowel before (by simp) (by simp)
    next => exact .vowel before (by simp) (by simp)
    next => exact .vowel before (by simp) (by simp)
    next => exact .vowel before (by simp) (by simp)
    next => exact .trailing before (by simp)
    next => exact .trailing before (by simp)
    next =>
      have hp : (endOf .joiner before).picture = .tied := by simpa using h
      exact .picture ((endOf_picture _ _).2.mp hp).2
    next => exact .flag ((endOf_unpaired _ _).mp h)
    next => simp at h

theorem joins_of_attaches {b c : BreakClass} {before : List BreakClass}
    (h : Attaches (b :: before) c) : (endOf b before).joins c = true := by
  have hl := endOf_last b before
  cases h with
  | newline => simp [ClusterEnd.joins, hl]
  | mark _ hb hc =>
    simp only [List.mem_cons, List.not_mem_nil, or_false] at hc
    rcases hc with rfl | rfl | rfl <;>
      cases b <;> simp_all [ClusterEnd.joins, BreakClass.standsAlone]
  | prepended _ hc =>
    cases c <;> simp_all [ClusterEnd.joins, BreakClass.standsAlone]
  | leading _ hc =>
    simp only [List.mem_cons, List.not_mem_nil, or_false] at hc
    rcases hc with rfl | rfl | rfl | rfl <;> simp [ClusterEnd.joins, hl]
  | vowel _ hb hc =>
    simp only [List.mem_cons, List.not_mem_nil, or_false] at hb hc
    rcases hb with rfl | rfl <;> rcases hc with rfl | rfl <;> simp [ClusterEnd.joins, hl]
  | trailing _ hb =>
    simp only [List.mem_cons, List.not_mem_nil, or_false] at hb
    rcases hb with rfl | rfl <;> simp [ClusterEnd.joins, hl]
  | picture hp =>
    have ht := (endOf_picture .joiner before).2.mpr ⟨rfl, hp⟩
    simp [ClusterEnd.joins, hl, ht]
  | flag hf =>
    have hb : b = .regional := Decidable.byContradiction fun hn => by
      simp [regionalsBefore_cons, hn] at hf
    subst b
    simpa [ClusterEnd.joins, hl] using (endOf_unpaired _ _).mpr hf

/-- What is remembered of a cluster tells whether a code point belongs to it. -/
theorem endOf_joins (b c : BreakClass) (before : List BreakClass) :
    (endOf b before).joins c = true ↔ Attaches (b :: before) c :=
  ⟨attaches_of_joins, joins_of_attaches⟩

end GlyphAlgebra
