import GlyphAlgebra.Proofs.Drawing.Walk
import GlyphAlgebra.Renderer

namespace GlyphAlgebra

variable {backend : FontBackend} {spec : String}

namespace FontLibrary

/-- Every font that is remembered is the one that the font system finds for its spec. -/
def Faithful (library : FontLibrary) (backend : FontBackend) : Prop :=
  ∀ entry ∈ library.recent, (backend.resolve entry.1).2 = .ok entry.2

theorem empty_faithful (backend : FontBackend) : empty.Faithful backend :=
  fun entry h => by cases h

theorem Faithful.resolved {library : FontLibrary} (h : library.Faithful backend) {font : Font}
    (hl : library.recent.lookup spec = some font) : (backend.resolve spec).2 = .ok font := by
  obtain ⟨front, back, hsplit, _⟩ := List.lookup_eq_some_iff.mp hl
  exact h (spec, font) (by simp [hsplit])

theorem Faithful.touch {library : FontLibrary} (h : library.Faithful backend) {font : Font}
    (hf : (backend.resolve spec).2 = .ok font) : (library.touch spec font).Faithful backend := by
  intro entry he
  rcases List.mem_cons.mp (List.mem_of_mem_take he) with rfl | he
  · exact hf
  · exact h entry (List.mem_filter.mp he).1

theorem lookup_none_iff (library : FontLibrary) (spec : String) :
    library.recent.lookup spec = none ↔ spec ∉ library.recent.map Prod.fst := by
  simp only [List.lookup_eq_none_iff, List.mem_map, bne_iff_ne, not_exists, not_and]
  exact ⟨fun h entry he heq => h entry he heq.symm, fun h entry he heq => h entry he heq.symm⟩

/-- A faithful library does as the font system does, whose requests it makes for the specs it does
not remember. What has a font comes to the front, and nothing else moves. -/
theorem Faithful.load_eq {library : FontLibrary} (h : library.Faithful backend) (spec : String) :
    library.load backend spec =
      let asked :=
        if spec ∈ library.recent.map Prod.fst then [] else (backend.resolve spec).1
      let library := { library with requests := library.requests ++ asked }
      match (backend.resolve spec).2 with
      | .ok font => (.ok font, library.touch spec font)
      | .error e => (.error e, library) := by
  by_cases hmem : spec ∈ library.recent.map Prod.fst
  · have hsome : library.recent.lookup spec ≠ none :=
      fun hnone => (lookup_none_iff library spec).mp hnone hmem
    obtain ⟨font, hl⟩ := Option.ne_none_iff_exists'.mp hsome
    simp only [FontLibrary.load, hl, h.resolved hl, if_pos hmem, List.append_nil]
  · have hl := (lookup_none_iff library spec).mpr hmem
    cases hr : (backend.resolve spec).2 with
    | ok font => simp only [FontLibrary.load, hl, hr, if_neg hmem]
    | error e => simp only [FontLibrary.load, hl, hr, if_neg hmem]

/-- A faithful library gives what the font system finds, and stays faithful. -/
theorem Faithful.load {library : FontLibrary} (h : library.Faithful backend) (spec : String) :
    (library.load backend spec).1 = (backend.resolve spec).2 ∧
      (library.load backend spec).2.Faithful backend := by
  rw [h.load_eq]
  cases hr : (backend.resolve spec).2 with
  | ok font => exact ⟨rfl, Faithful.touch h hr⟩
  | error e => exact ⟨rfl, h⟩

end FontLibrary

/-- What loading keeps of a library, a drawing keeps. -/
theorem render_keeps {P : FontLibrary → Prop}
    (hload : ∀ library, P library → P (library.load backend spec).2) (t : Tree String)
    {s : RenderState} (h : P s.library) : P ((render backend spec t).run s).2.library := by
  induction t generalizing s with
  | literal text =>
    rw [render_literal, drawGlyph_run]
    cases s.strategy.next with
    | error e => exact h
    | ok next =>
      dsimp only
      cases (s.library.load backend spec).1 with
      | error e => exact hload _ h
      | ok font =>
        dsimp only
        cases font.drawn text next.1 <;> exact hload _ h
  | paren inner ih =>
    rw [render_paren]
    exact ih h
  | binary op left right ihl ihr =>
    have hleft := ihl h
    rw [render_binary, run_bind]
    rcases hl : (render backend spec left).run s with ⟨_ | a, s₁⟩
    · rw [hl] at hleft
      exact hleft
    · rw [hl] at hleft
      have hright := ihr hleft
      dsimp only
      rw [run_bind]
      rcases hr : (render backend spec right).run s₁ with ⟨_ | b, s₂⟩
      · rw [hr] at hright
        exact hright
      · rw [hr] at hright
        dsimp only
        rw [combination_run]
        cases Bitmap.combine op a b <;> exact hright
  | stray text =>
    rw [render_stray]
    exact h

theorem exists_scheme {name : String} (h : name ∈ schemeNames) :
    ∃ scheme, Scheme.ofName name = .ok scheme := by
  simp only [schemeNames, schemeCatalog, List.map_cons, List.map_nil, List.mem_cons,
    List.not_mem_nil, or_false] at h
  rcases h with rfl | rfl | rfl | rfl | rfl <;> exact ⟨_, rfl⟩

namespace Renderer

variable {r : Renderer} {text : String} {strategy : Strategy} {w w' : Workshop}

/-- A listed scheme and a size above zero make a renderer. -/
theorem ofSchemeName_listed {name : String} (h : name ∈ schemeNames) {size : Float}
    (hsize : ¬size ≤ 0) (family : String) :
    ∃ scheme, Scheme.ofName name = .ok scheme ∧
      ofSchemeName name size family = .ok ⟨size, family, .ok (.start scheme)⟩ := by
  obtain ⟨scheme, hscheme⟩ := exists_scheme h
  exact ⟨scheme, hscheme, by simp only [ofSchemeName, hscheme, make, if_neg hsize]⟩

theorem drawTree_eq (h : r.factory = .ok strategy) (t : Tree String) (w : Workshop) :
    r.drawTree backend t w =
      (((render backend r.fontSpec t).run ⟨strategy, w.library, w.log⟩).1,
        ⟨((render backend r.fontSpec t).run ⟨strategy, w.library, w.log⟩).2.library,
          ((render backend r.fontSpec t).run ⟨strategy, w.library, w.log⟩).2.log,
          w.started + 1⟩) := by
  rw [drawTree, h]
  rfl

theorem drawTree_error {e : StrategyError} (h : r.factory = .error e) (t : Tree String)
    (w : Workshop) : r.drawTree backend t w =
      (.error (.strategy e), { w with started := w.started + 1 }) := by
  simp only [drawTree, h]

theorem drawText_unread (h : (parse text).expression = none) (w : Workshop) :
    r.drawText backend text w = (.ok ⟨parse text, none⟩, w) := by
  simp only [drawText, h]

theorem drawText_read {e : Expr} (h : (parse text).expression = some e) (w : Workshop) :
    r.drawText backend text w =
      ((r.drawTree backend e.toTree w).1.map fun bitmap => ⟨parse text, some bitmap⟩,
        (r.drawTree backend e.toTree w).2) := by
  simp only [drawText, h]

theorem drawText_keeps {P : FontLibrary → Prop}
    (hload : ∀ library, P library → P (library.load backend r.fontSpec).2) (text : String)
    (h : P w.library) : P (r.drawText backend text w).2.library := by
  cases he : (parse text).expression with
  | none =>
    rw [drawText_unread he]
    exact h
  | some e =>
    rw [drawText_read he]
    cases hs : r.factory with
    | error err =>
      rw [drawTree_error hs]
      exact h
    | ok strategy =>
      have hstart : P (RenderState.mk strategy w.library w.log).library := h
      rw [drawTree_eq hs]
      exact render_keeps hload e.toTree hstart

theorem drawText_alike
    (h : (w.library.load backend r.fontSpec).1 = (w'.library.load backend r.fontSpec).1)
    (text : String) : (r.drawText backend text w).1 = (r.drawText backend text w').1 := by
  cases he : (parse text).expression with
  | none => rw [drawText_unread he, drawText_unread he]
  | some e =>
    rw [drawText_read he, drawText_read he]
    cases hs : r.factory with
    | error err => rw [drawTree_error hs, drawTree_error hs]
    | ok strategy =>
      have halike : Alike backend r.fontSpec ⟨strategy, w.library, w.log⟩
          ⟨strategy, w'.library, w'.log⟩ := ⟨rfl, h⟩
      rw [drawTree_eq hs, drawTree_eq hs]
      dsimp only
      rw [(render_alike e.toTree halike).1]

/-- With faithful libraries a renderer draws a text alike, whatever was drawn before. -/
theorem drawText_faithful (h : w.library.Faithful backend) (h' : w'.library.Faithful backend)
    (text : String) : (r.drawText backend text w).1 = (r.drawText backend text w').1 :=
  drawText_alike ((h.load r.fontSpec).1.trans (h'.load r.fontSpec).1.symm) text

end Renderer

end GlyphAlgebra
