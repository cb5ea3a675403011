import GlyphAlgebra.Proofs.Drawing.Memory
import GlyphAlgebra.Proofs.Drawing.Reference

namespace GlyphAlgebra

variable {backend : FontBackend} {spec : String}

/-- The literals of a tree, and what stands in it for an expression, in order. -/
def Tree.leaves {α : Type} : Tree α → List (Tree α)
  | literal text => [literal text]
  | paren inner => inner.leaves
  | binary _ left right => left.leaves ++ right.leaves
  | stray value => [stray value]

theorem leaves_cons {α : Type} (t : Tree α) : ∃ first rest, t.leaves = first :: rest := by
  induction t with
  | literal text => exact ⟨_, _, rfl⟩
  | paren inner ih => exact ih
  | binary op left right ihl _ =>
    obtain ⟨first, rest, h⟩ := ihl
    exact ⟨first, rest ++ right.leaves, by rw [Tree.leaves, h]; rfl⟩
  | stray value => exact ⟨_, _, rfl⟩

theorem leaf_cases {α : Type} {t leaf : Tree α} (h : leaf ∈ t.leaves) :
    (∃ text, leaf = .literal text) ∨ ∃ value, leaf = .stray value := by
  induction t with
  | literal text => exact .inl ⟨text, List.mem_singleton.mp h⟩
  | paren inner ih => exact ih h
  | binary op left right ihl ihr => exact (List.mem_append.mp h).elim ihl ihr
  | stray value => exact .inr ⟨value, List.mem_singleton.mp h⟩

/-- A text that gets a color takes it and loads the font, whatever comes of it. -/
theorem glyph_left {text : String} {s : RenderState} {next : Color × Strategy}
    (h : s.strategy.next = .ok next) :
    ((drawGlyph backend spec text).run s).2.strategy = next.2 ∧
      ((drawGlyph backend spec text).run s).2.library = (s.library.load backend spec).2 := by
  rw [drawGlyph_run, h]
  dsimp only
  cases (s.library.load backend spec).1 with
  | error e => exact ⟨rfl, rfl⟩
  | ok font => dsimp only; cases font.drawn text next.1 <;> exact ⟨rfl, rfl⟩

theorem load_remembers {library : FontLibrary} {font : Font}
    (h : (library.load backend spec).1 = .ok font) :
    (library.load backend spec).2.recent.lookup spec = some font := by
  unfold FontLibrary.load at h ⊢
  cases hl : library.recent.lookup spec with
  | some found =>
    simp only [hl] at h ⊢
    cases h
    exact lookup_touch library spec _
  | none =>
    simp only [hl] at h ⊢
    cases hr : (backend.resolve spec).2 with
    | error e => rw [hr] at h; cases h
    | ok found =>
      rw [hr] at h
      cases h
      exact lookup_touch _ spec _

/-- The font of a spec is remembered, and the library has made these requests. -/
def FontLibrary.Settled (library : FontLibrary) (spec : String) (requests : List FontRequest) :
    Prop :=
  (∃ font, library.recent.lookup spec = some font) ∧ library.requests = requests

theorem settled_load {library : FontLibrary} {requests : List FontRequest}
    (h : library.Settled spec requests) :
    (library.load backend spec).2.Settled spec requests := by
  obtain ⟨⟨font, hfont⟩, hrequests⟩ := h
  simp only [FontLibrary.load, hfont]
  exact ⟨⟨font, lookup_touch library spec font⟩, hrequests⟩

theorem render_remembers {t : Tree String} {b : Bitmap} {s s' : RenderState}
    (h : (render backend spec t).run s = (.ok b, s')) :
    ∃ font, s'.library.recent.lookup spec = some font := by
  induction t generalizing b s s' with
  | literal text =>
    rw [render_literal] at h
    obtain ⟨_, font, _, _, hload, _, hlibrary⟩ := drawGlyph_ok h
    exact ⟨font, hlibrary ▸ load_remembers hload⟩
  | paren inner ih =>
    rw [render_paren] at h
    exact ih h
  | binary op left right _ ihr =>
    rw [render_binary] at h
    obtain ⟨a, s₁, _, h⟩ := run_bind_ok h
    obtain ⟨c, s₂, hright, h⟩ := run_bind_ok h
    rw [(combination_ok h).2.2]
    exact ihr hright
  | stray text =>
    rw [render_stray] at h
    cases h

/-- All that a drawing asks of the font system is asked while its first leaf is drawn. -/
theorem render_requests {t first : Tree String} {rest : List (Tree String)} (s : RenderState)
    (h : t.leaves = first :: rest) :
    ((render backend spec t).run s).2.library.requests =
      ((render backend spec first).run s).2.library.requests := by
  induction t generalizing rest with
  | literal text =>
    cases h
    rfl
  | paren inner ih =>
    rw [render_paren]
    exact ih h
  | binary op left right ihl _ =>
    obtain ⟨first', rest', hleaves⟩ := leaves_cons left
    have hfirst : first' = first := by
      rw [Tree.leaves, hleaves] at h
      exact (List.cons.inj h).1
    subst first'
    have hleft := ihl hleaves
    rw [render_binary, run_bind]
    rcases hl : (render backend spec left).run s with ⟨_ | a, s₁⟩
    · rw [hl] at hleft
      exact hleft
    · rw [hl] at hleft
      -- From here on the font is at hand.
      have hsettled : s₁.library.Settled spec s₁.library.requests := ⟨render_remembers hl, rfl⟩
      have hright : ((render backend spec right).run s₁).2.library.requests =
          s₁.library.requests :=
        (render_keeps (P := (·.Settled spec s₁.library.requests)) (fun _ => settled_load) right
          hsettled).2
      rw [← hleft, ← hright]
      dsimp only
      rw [run_bind]
      rcases (render backend spec right).run s₁ with ⟨_ | c, s₂⟩
      · rfl
      · dsimp only
        rw [combination_run]
        cases Bitmap.combine op a c <;> rfl
  | stray text =>
    cases h
    rfl

/-- In an empty library a leaf asks for one resolution of the spec, unless it gets no color or is no
expression. -/
theorem leaf_requests {t leaf : Tree String} (hleaf : leaf ∈ t.leaves) {s : RenderState}
    (h : s.library = .empty) :
    ((render backend spec leaf).run s).2.library.requests =
      if leaf.isLiteral && s.strategy.next.isOk then (backend.resolve spec).1 else [] := by
  rcases leaf_cases hleaf with ⟨text, rfl⟩ | ⟨text, rfl⟩
  · have hload : (s.library.load backend spec).2.requests = (backend.resolve spec).1 := by
      rw [h, FontLibrary.load]
      cases hr : (backend.resolve spec).2 <;> simp [FontLibrary.empty, hr, FontLibrary.touch]
    rw [render_literal]
    cases hn : s.strategy.next with
    | error e =>
      rw [drawGlyph_run, hn]
      simp [h, FontLibrary.empty, Except.isOk, Except.toBool]
    | ok next =>
      rw [(glyph_left hn).2, hload]
      rfl
  · rw [render_stray]
    show s.library.requests = []
    rw [h]
    rfl

end GlyphAlgebra
