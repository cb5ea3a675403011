import GlyphAlgebra.Proofs.Drawing.Memory
import Mathlib.Data.List.Dedup

namespace GlyphAlgebra

variable {backend : FontBackend} {library : FontLibrary} {past : List String}

/-- What is left of a library when specs are loaded one after another. -/
def FontLibrary.after (library : FontLibrary) (backend : FontBackend) :
    List String → FontLibrary
  | [] => library
  | spec :: specs => (library.load backend spec).2.after backend specs

/-- The specs among those loaded that have a font, the last one used first, each one once. -/
def FontBackend.usedSpecs (backend : FontBackend) (history : List String) : List String :=
  (history.filter fun spec => (backend.resolve spec).2.isOk).dedup.reverse

/-- The specs that a library should remember after all that was loaded. -/
def FontBackend.lately (backend : FontBackend) (history : List String) : List String :=
  (backend.usedSpecs history).take libraryCapacity

/-- An element at the end is kept there, and is left out before it. -/
theorem dedup_concat {α : Type} [DecidableEq α] (xs : List α) (a : α) :
    (xs ++ [a]).dedup = xs.dedup.filter (· ≠ a) ++ [a] := by
  induction xs with
  | nil => rfl
  | cons x xs ih =>
    by_cases hx : x ∈ xs
    · have hx' : x ∈ xs ++ [a] := List.mem_append_left _ hx
      rw [List.cons_append, List.dedup_cons_of_mem hx', List.dedup_cons_of_mem hx, ih]
    · by_cases hxa : x = a
      · have hx' : x ∈ xs ++ [a] := by simp [hxa]
        rw [List.cons_append, List.dedup_cons_of_mem hx', List.dedup_cons_of_notMem hx, ih,
          List.filter_cons_of_neg (by simpa using hxa)]
      · have hx' : x ∉ xs ++ [a] := by simp [hx, hxa]
        rw [List.cons_append, List.dedup_cons_of_notMem hx', List.dedup_cons_of_notMem hx, ih,
          List.filter_cons_of_pos (by simpa using hxa), List.cons_append]

/-- The first `n` entries other than `a` are among the first `n + 1` entries. -/
theorem take_filter_ne {α : Type} [DecidableEq α] {xs : List α} (h : xs.Nodup) (a : α) (n : Nat) :
    ((xs.take (n + 1)).filter (· ≠ a)).take n = (xs.filter (· ≠ a)).take n := by
  induction xs generalizing n with
  | nil => rfl
  | cons x xs ih =>
    obtain ⟨hx, hxs⟩ := List.nodup_cons.mp h
    rw [List.take_succ_cons]
    by_cases hxa : x = a
    · have hne : ∀ y ∈ xs, decide (y ≠ a) = true := by
        intro y hy
        simp only [decide_eq_true_eq]
        rintro rfl
        exact hx (hxa ▸ hy)
      have hne' : ∀ y ∈ xs.take n, decide (y ≠ a) = true :=
        fun y hy => hne y (List.mem_of_mem_take hy)
      rw [List.filter_cons_of_neg (by simpa using hxa), List.filter_cons_of_neg (by simpa using hxa),
        List.filter_eq_self.mpr hne, List.filter_eq_self.mpr hne', List.take_take, Nat.min_self]
    · rw [List.filter_cons_of_pos (by simpa using hxa), List.filter_cons_of_pos (by simpa using hxa)]
      cases n with
      | zero => rfl
      | succ n => rw [List.take_succ_cons, List.take_succ_cons, ih hxs]

theorem usedSpecs_nodup (backend : FontBackend) (history : List String) :
    (backend.usedSpecs history).Nodup :=
  List.nodup_reverse.mpr (List.nodup_dedup _)

theorem lately_nodup (backend : FontBackend) (history : List String) :
    (backend.lately history).Nodup :=
  (usedSpecs_nodup backend history).sublist (List.take_sublist _ _)

theorem usedSpecs_found {spec : String} {font : Font}
    (h : (backend.resolve spec).2 = .ok font) (history : List String) :
    backend.usedSpecs (history ++ [spec]) =
      spec :: (backend.usedSpecs history).filter (· ≠ spec) := by
  have hok : (backend.resolve spec).2.isOk = true := by rw [h]; rfl
  simp only [FontBackend.usedSpecs, List.filter_append, List.filter_singleton, hok, cond_true,
    dedup_concat, List.reverse_append, List.reverse_singleton, List.singleton_append,
    List.filter_reverse]

/-- A spec with a font comes first. Where there is no room, what has rested longest moves out. -/
theorem lately_found {spec : String} {font : Font}
    (h : (backend.resolve spec).2 = .ok font) (history : List String) :
    backend.lately (history ++ [spec]) =
      (spec :: (backend.lately history).filter (· ≠ spec)).take libraryCapacity := by
  have hcapacity : libraryCapacity = 63 + 1 := rfl
  simp only [FontBackend.lately]
  rw [usedSpecs_found h, hcapacity, List.take_succ_cons, List.take_succ_cons,
    take_filter_ne (usedSpecs_nodup backend history)]

/-- A spec without a font changes nothing. -/
theorem lately_missing {spec : String} {e : FontError}
    (h : (backend.resolve spec).2 = .error e) (history : List String) :
    backend.lately (history ++ [spec]) = backend.lately history := by
  have hnot : (backend.resolve spec).2.isOk = false := by rw [h]; rfl
  simp only [FontBackend.lately, FontBackend.usedSpecs, List.filter_append,
    List.filter_singleton, hnot, cond_false, List.append_nil]

namespace FontLibrary

theorem touch_specs (library : FontLibrary) (spec : String) (font : Font) :
    (library.touch spec font).recent.map Prod.fst =
      (spec :: (library.recent.map Prod.fst).filter (· ≠ spec)).take libraryCapacity := by
  simp only [touch, List.map_take, List.map_cons, List.filter_map]
  rfl

/-- The library remembers what it should after `past`, each spec with its font. -/
structure Remembers (library : FontLibrary) (backend : FontBackend) (past : List String) : Prop where
  faithful : library.Faithful backend
  specs : library.recent.map Prod.fst = backend.lately past

theorem empty_remembers (backend : FontBackend) : empty.Remembers backend [] :=
  ⟨empty_faithful backend, rfl⟩

theorem Remembers.load (h : library.Remembers backend past) (spec : String) :
    (library.load backend spec).2.Remembers backend (past ++ [spec]) := by
  refine ⟨(h.faithful.load spec).2, ?_⟩
  rw [h.faithful.load_eq]
  cases hr : (backend.resolve spec).2 with
  | ok font =>
    rw [lately_found hr, ← h.specs]
    exact touch_specs _ spec font
  | error e =>
    rw [lately_missing hr]
    exact h.specs

theorem Remembers.after (h : library.Remembers backend past) (history : List String) :
    (library.after backend history).Remembers backend (past ++ history) := by
  induction history generalizing library past with
  | nil =>
    rw [List.append_nil]
    exact h
  | cons spec history ih =>
    have hrest := ih (h.load spec)
    rw [List.append_assoc] at hrest
    exact hrest

end FontLibrary

/-- A library shows in nothing but the requests it saves. Whatever was loaded before, each spec
comes out as the font system resolves it. No font is asked for if the spec is among the latest that
have a font, and otherwise just those that the font system asks for. What cannot be resolved changes
no entry, and there is room for `libraryCapacity` specs, each remembered once. -/
theorem load_as_resolved (backend : FontBackend) (history : List String) (spec : String) :
    let library := FontLibrary.empty.after backend history
    let next := library.load backend spec
    next.1 = (backend.resolve spec).2 ∧
      next.2.requests = library.requests ++
        (if spec ∈ backend.lately history then [] else (backend.resolve spec).1) ∧
      library.recent.map Prod.fst = backend.lately history ∧
      (∀ e, (backend.resolve spec).2 = .error e → next.2.recent = library.recent) ∧
      library.recent.length ≤ libraryCapacity ∧ (library.recent.map Prod.fst).Nodup := by
  intro library next
  have hremembers : library.Remembers backend history :=
    (FontLibrary.empty_remembers backend).after history
  have hspecs := hremembers.specs
  have hload := hremembers.faithful.load_eq spec
  rw [hspecs] at hload
  have hrequests : next.2.requests = library.requests ++
      if spec ∈ backend.lately history then [] else (backend.resolve spec).1 := by
    unfold next
    rw [hload]
    cases (backend.resolve spec).2 <;> rfl
  have hmissing : ∀ e, (backend.resolve spec).2 = .error e →
      next.2.recent = library.recent := by
    intro e hr
    unfold next
    rw [hload, hr]
  have hlength : library.recent.length ≤ libraryCapacity := by
    rw [← List.length_map Prod.fst, hspecs]
    exact List.length_take_le _ _
  have hnodup : (library.recent.map Prod.fst).Nodup := by
    rw [hspecs]
    exact lately_nodup backend history
  exact ⟨(hremembers.faithful.load spec).1, hrequests, hspecs, hmissing, hlength, hnodup⟩

end GlyphAlgebra
