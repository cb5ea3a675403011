import GlyphAlgebra.Proofs.Drawing.Memory
import Mathlib.Control.Monad.Basic

namespace GlyphAlgebra

variable {backend : FontBackend} {size : Float}

namespace FontBackend

/-- A source that is passed over: it is missing, or what is built in is not scalable. -/
def Lacks (backend : FontBackend) (size : Float) : FontSource → Prop
  | .builtin => backend.builtin size = .ok none ∨
      ∃ message, backend.builtin size = .error ⟨.system, message⟩
  | .file name => ∃ message, backend.file name size = .error ⟨.system, message⟩

theorem lacks_iff {source : FontSource} :
    backend.Lacks size source ↔ backend.face? source size = .ok none ∨
      ∃ message, backend.face? source size = .error ⟨.system, message⟩ := by
  cases source with
  | builtin => exact Iff.rfl
  | file name =>
    simp only [Lacks, face?]
    cases backend.file name size <;> simp [Except.map]

/-- A source that is not passed over has a face, or fails in some other way. -/
theorem face?_cases {source : FontSource} (h : ¬backend.Lacks size source) :
    (∃ face, backend.face? source size = .ok (some face)) ∨
      ∃ f, f.kind ≠ .system ∧ backend.face? source size = .error f := by
  rw [lacks_iff, not_or, not_exists] at h
  cases hface : backend.face? source size with
  | error f =>
    obtain ⟨kind, message⟩ := f
    refine .inr ⟨_, ?_, rfl⟩
    rintro rfl
    exact h.2 message hface
  | ok face =>
    cases face with
    | none => exact absurd hface h.1
    | some face => exact .inl ⟨face, rfl⟩

section search

variable {source : FontSource} {missing sources : List FontSource}

theorem firstOf_lacking (h : backend.Lacks size source) (sources : List FontSource) :
    backend.firstOf size (source :: sources) =
      (source :: (backend.firstOf size sources).1, (backend.firstOf size sources).2) := by
  rcases lacks_iff.mp h with h | ⟨message, h⟩ <;> rw [firstOf, h]

theorem firstOf_found {face : Typeface} (h : backend.face? source size = .ok (some face))
    (sources : List FontSource) :
    backend.firstOf size (source :: sources) = ([source], .ok (some ⟨source, size, face⟩)) := by
  rw [firstOf, h]

theorem firstOf_failing {f : FontFault} (hkind : f.kind ≠ .system)
    (h : backend.face? source size = .error f) (sources : List FontSource) :
    backend.firstOf size (source :: sources) = ([source], .error f) := by
  obtain ⟨kind, message⟩ := f
  cases kind with
  | system => exact absurd rfl hkind
  | value => rw [firstOf, h]
  | runtime => rw [firstOf, h]

/-- The sources that are tried are those that are passed over and the one behind them, which decides
how the search ends. -/
theorem firstOf_outcome (backend : FontBackend) (size : Float) (sources : List FontSource) :
    ∃ missing rest, sources = missing ++ rest ∧ (∀ source ∈ missing, backend.Lacks size source) ∧
      (backend.firstOf size sources).1 = missing ++ rest.take 1 ∧
      match rest with
      | [] => (backend.firstOf size sources).2 = .ok none
      | source :: _ =>
        (∃ face, backend.face? source size = .ok (some face) ∧
          (backend.firstOf size sources).2 = .ok (some ⟨source, size, face⟩)) ∨
        ∃ f, f.kind ≠ .system ∧ backend.face? source size = .error f ∧
          (backend.firstOf size sources).2 = .error f := by
  induction sources with
  | nil => exact ⟨[], [], rfl, by simp, rfl, rfl⟩
  | cons source sources ih =>
    by_cases hlacks : backend.Lacks size source
    · obtain ⟨missing, rest, hsources, hmissing, htried, hend⟩ := ih
      rw [firstOf_lacking hlacks]
      refine ⟨source :: missing, rest, congrArg _ hsources, ?_, congrArg _ htried, hend⟩
      exact List.forall_mem_cons.mpr ⟨hlacks, hmissing⟩
    · refine ⟨[], source :: sources, rfl, by simp, ?_⟩
      rcases face?_cases hlacks with ⟨face, hface⟩ | ⟨f, hkind, hf⟩
      · rw [firstOf_found hface]
        exact ⟨rfl, .inl ⟨face, hface, rfl⟩⟩
      · rw [firstOf_failing hkind hf]
        exact ⟨rfl, .inr ⟨f, hkind, hf, rfl⟩⟩

end search

end FontBackend

/-- The sources that a search tried, and what it came to. -/
abbrev FontSearch := List FontSource × Except FontFault (Option Font)

/-- Where nothing was found the next search goes on. -/
def FontSearch.andThen (first second : FontSearch) : FontSearch :=
  match first with
  | (tried, .ok none) => (tried ++ second.1, second.2)
  | outcome => outcome

namespace FontBackend

/-- The first of some files that is there. -/
def searchFiles (backend : FontBackend) (size : Float) : List String → FontSearch
  | [] => ([], .ok none)
  | name :: names =>
    match backend.file name size with
    | .ok face => ([.file name], .ok (some ⟨.file name, size, face⟩))
    | .error ⟨.system, _⟩ =>
      FontSearch.andThen ([.file name], .ok none) (backend.searchFiles size names)
    | .error f => ([.file name], .error f)

/-- The font of one family, the built-in one or one of its files. -/
def searchFamily (backend : FontBackend) (size : Float) (family : String) : FontSearch :=
  if isGeneric family then
    match backend.builtin size with
    | .ok (some face) => ([.builtin], .ok (some ⟨.builtin, size, face⟩))
    | .ok none | .error ⟨.system, _⟩ => ([.builtin], .ok none)
    | .error f => ([.builtin], .error f)
  else backend.searchFiles size [family, s!"{family}.ttf", s!"{family}.otf"]

/-- The font of the first family that has one. -/
def searchFamilies (backend : FontBackend) (size : Float) : List String → FontSearch
  | [] => ([], .ok none)
  | family :: families =>
    FontSearch.andThen (backend.searchFamily size family) (backend.searchFamilies size families)

theorem firstOf_append (front back : List FontSource) :
    backend.firstOf size (front ++ back) =
      FontSearch.andThen (backend.firstOf size front) (backend.firstOf size back) := by
  induction front with
  | nil => rfl
  | cons source front ih =>
    rw [List.cons_append]
    by_cases hlacks : backend.Lacks size source
    · rw [firstOf_lacking hlacks, firstOf_lacking hlacks, ih]
      obtain ⟨tried, result⟩ := backend.firstOf size front
      rcases result with f | (_ | font) <;> rfl
    · rcases face?_cases hlacks with ⟨face, hface⟩ | ⟨f, hkind, hf⟩
      · rw [firstOf_found hface, firstOf_found hface]
        rfl
      · rw [firstOf_failing hkind hf, firstOf_failing hkind hf]
        rfl

theorem searchFiles_eq (names : List String) :
    backend.searchFiles size names = backend.firstOf size (names.map .file) := by
  induction names with
  | nil => rfl
  | cons name names ih =>
    rw [searchFiles, List.map_cons, firstOf, face?, ih]
    rcases backend.file name size with ⟨kind, message⟩ | face
    · cases kind <;> rfl
    · rfl

theorem searchFamily_eq (family : String) :
    backend.searchFamily size family = backend.firstOf size (familySources family) := by
  unfold searchFamily familySources
  split
  next =>
    rw [firstOf, face?]
    rcases backend.builtin size with ⟨kind, message⟩ | (_ | face)
    · cases kind <;> rfl
    · rfl
    · rfl
  next => exact searchFiles_eq _

/-- The search from family to family is the search through all their sources. -/
theorem searchFamilies_eq (families : List String) :
    backend.searchFamilies size families =
      backend.firstOf size (families.flatMap familySources) := by
  induction families with
  | nil => rfl
  | cons family families ih =>
    rw [searchFamilies, List.flatMap_cons, firstOf_append, searchFamily_eq, ih]

end FontBackend

section loading

variable {library : FontLibrary} {text : String} {spec : FontSpec}

theorem resolve_eq (hspec : FontSpec.ofText text = .ok spec) :
    backend.resolve text =
      ((backend.firstOf spec.size spec.sources).1.map (⟨·, spec.size⟩),
        match (backend.firstOf spec.size spec.sources).2 with
        | .error f => .error (.fault f)
        | .ok none => .error (.noUsable text)
        | .ok (some font) => .ok font) := by
  unfold FontBackend.resolve
  split
  next e he =>
    rw [hspec] at he
    cases he
  next parsed hparsed =>
    rw [hspec] at hparsed
    cases hparsed
    rfl

theorem FontLibrary.load_new (hnew : text ∉ library.recent.map Prod.fst) :
    (library.load backend text).1 = (backend.resolve text).2 ∧
      (library.load backend text).2.requests =
        library.requests ++ (backend.resolve text).1 := by
  rw [FontLibrary.load, (lookup_none_iff library text).mpr hnew]
  dsimp only
  cases (backend.resolve text).2 <;> exact ⟨rfl, rfl⟩

end loading

/-- A spec that is not remembered is searched for family by family. The requests are those for its
sources in order, up to the first one that is not passed over: if that one has a face, it makes the
font, and otherwise its fault is the outcome. If all are passed over, each has been asked for once,
and there is no usable font. -/
theorem load_first_usable {text : String} {spec : FontSpec}
    (hspec : FontSpec.ofText text = .ok spec) (backend : FontBackend) (library : FontLibrary)
    (hnew : text ∉ library.recent.map Prod.fst) :
    let next := library.load backend text
    backend.searchFamilies spec.size spec.families = backend.firstOf spec.size spec.sources ∧
      ∃ missing rest, spec.sources = missing ++ rest ∧
        (∀ source ∈ missing, backend.Lacks spec.size source) ∧
        next.2.requests = library.requests ++ (missing ++ rest.take 1).map (⟨·, spec.size⟩) ∧
        match rest with
        | [] => next.1 = .error (.noUsable text)
        | source :: _ =>
          (∃ face, backend.face? source spec.size = .ok (some face) ∧
            next.1 = .ok ⟨source, spec.size, face⟩) ∨
          ∃ f, f.kind ≠ .system ∧ backend.face? source spec.size = .error f ∧
            next.1 = .error (.fault f) := by
  obtain ⟨hresult, hrequests⟩ := @FontLibrary.load_new backend library text hnew
  rw [resolve_eq hspec] at hresult hrequests
  refine ⟨FontBackend.searchFamilies_eq _, ?_⟩
  obtain ⟨missing, rest, hsources, hmissing, htried, hend⟩ :=
    backend.firstOf_outcome spec.size spec.sources
  refine ⟨missing, rest, hsources, hmissing, by rw [hrequests, htried], ?_⟩
  cases rest with
  | nil => rw [hresult, hend]
  | cons source rest =>
    rcases hend with ⟨face, hface, hend⟩ | ⟨f, hkind, hf, hend⟩
    · exact .inl ⟨face, hface, by rw [hresult, hend]⟩
    · exact .inr ⟨f, hkind, hf, by rw [hresult, hend]⟩

def unitFace : Typeface where
  metrics := .ok (1, 0)
  advance _ := .ok 1
  ink _ := .ok ⟨0, 0, [[255]]⟩

/-- There are no files, and what is built in is scalable. -/
def bareBackend : FontBackend :=
  { FontBackend.empty with builtin := fun _ => .ok (some unitFace) }

theorem load_first_usable_serif :
    FontSpec.ofText "40px roboto, serif" = .ok ⟨nearestDecimal 40 0, ["roboto", "serif"]⟩ ∧
      "40px roboto, serif" ∉ FontLibrary.empty.recent.map Prod.fst ∧
      (FontLibrary.empty.load bareBackend "40px roboto, serif").1 =
        .ok ⟨.builtin, nearestDecimal 40 0, unitFace⟩ ∧
      (FontLibrary.empty.load bareBackend "40px roboto, serif").2.requests.map (·.source) =
        [.file "roboto", .file "roboto.ttf", .file "roboto.otf", .builtin] := by
  have hspec : FontSpec.ofText "40px roboto, serif" =
      .ok ⟨nearestDecimal 40 0, ["roboto", "serif"]⟩ := by decide +kernel
  have hnew : "40px roboto, serif" ∉ FontLibrary.empty.recent.map Prod.fst := by decide
  obtain ⟨-, missing, rest, hsources, hmissing, hrequests, hend⟩ :=
    load_first_usable hspec bareBackend FontLibrary.empty hnew
  have hall : FontSpec.sources ⟨nearestDecimal 40 0, ["roboto", "serif"]⟩ =
      [.file "roboto", .file "roboto.ttf", .file "roboto.otf", .builtin] := by decide +kernel
  have hbuiltin : ∀ source ∈ missing, source ≠ .builtin := by
    rintro _ hmem rfl
    obtain h | ⟨message, h⟩ := hmissing _ hmem <;> cases h
  rw [hall] at hsources
  rcases rest with _ | ⟨source, back⟩
  · rw [List.append_nil] at hsources
    exact absurd rfl (hbuiltin .builtin (by simp [← hsources]))
  obtain ⟨face, hface, hload⟩ | ⟨f, hkind, hf, -⟩ := hend
  · cases source with
    | file name => cases hface
    | builtin =>
      cases hface
      simp only [List.cons_eq_append_iff, List.nil_eq, List.cons.injEq, List.append_eq_nil_iff,
        reduceCtorEq, false_and, and_false, exists_false, or_false, false_or] at hsources
      obtain ⟨_, rfl, _, rfl, _, rfl, rfl, -⟩ := hsources
      refine ⟨hspec, hnew, hload, ?_⟩
      rw [hrequests]
      rfl
  · cases source with
    | file name => cases hf; exact absurd rfl hkind
    | builtin => cases hf

end GlyphAlgebra
