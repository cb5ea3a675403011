import GlyphAlgebra.Proofs.Drawing.Walk

namespace GlyphAlgebra

variable {backend : FontBackend} {spec : String}

/-- The strategy hands out these colors, one after the other, and is left in the second state. -/
def Strategy.Gives (s : Strategy) : List Color → Strategy → Prop
  | [], s' => s' = s
  | color :: colors, s' => ∃ next, s.next = .ok (color, next) ∧ next.Gives colors s'

def Strategy.after (s : Strategy) (n : Nat) : Strategy :=
  { s with taken := s.taken + n }

/-- The glyph that is drawn of a text when a given color comes next. -/
def glyphIn (backend : FontBackend) (spec : String) (library : FontLibrary) (text : String)
    (color : Color) : Option Bitmap :=
  ((drawGlyph backend spec text).run ⟨.start (.uniform color), library, []⟩).1.toOption

/-- The drawing that a tree makes of glyphs for its literals, the first of which has the given
number. -/
def Tree.compose {α : Type} (glyph : Nat → String → Option Bitmap) : Nat → Tree α → Option Bitmap
  | k, literal text => glyph k text
  | k, paren inner => inner.compose glyph k
  | k, binary op left right => do
    let a ← left.compose glyph k
    let b ← right.compose glyph (k + left.literals.length)
    (Bitmap.combine op a b).toOption
  | _, stray _ => none

theorem gives_append {s s' s'' : Strategy} {first second : List Color}
    (h : s.Gives first s') (h' : s'.Gives second s'') : s.Gives (first ++ second) s'' := by
  induction first generalizing s with
  | nil =>
    cases h
    exact h'
  | cons color colors ih =>
    obtain ⟨next, hn, hrest⟩ := h
    exact ⟨next, hn, ih hrest⟩

theorem gives_after {s s' : Strategy} {colors : List Color} (h : s.Gives colors s') :
    s' = s.after colors.length := by
  induction colors generalizing s with
  | nil => exact h
  | cons color colors ih =>
    obtain ⟨next, hn, hrest⟩ := h
    have hnext : next = s.after 1 := by
      unfold Strategy.next at hn
      split at hn
      next => cases hn; rfl
      next => cases hn
    rw [ih hrest, hnext]
    simp [Strategy.after, Nat.add_comm, Nat.add_left_comm]

theorem run_bind_ok {α β : Type} {x : RenderM α} {f : α → RenderM β} {s s' : RenderState} {b : β}
    (h : (x >>= f).run s = (.ok b, s')) :
    ∃ a s₁, x.run s = (.ok a, s₁) ∧ (f a).run s₁ = (.ok b, s') := by
  rw [run_bind] at h
  rcases hx : x.run s with ⟨_ | a, s₁⟩
  · rw [hx] at h
    cases h
  · rw [hx] at h
    exact ⟨a, s₁, rfl, h⟩

theorem combination_ok {op : Operator} {a b c : Bitmap} {s s' : RenderState}
    (h : (drawCombination op a b).run s = (.ok c, s')) :
    Bitmap.combine op a b = .ok c ∧ s'.strategy = s.strategy ∧ s'.library = s.library := by
  rw [combination_run] at h
  cases hc : Bitmap.combine op a b with
  | error e => rw [hc] at h; cases h
  | ok bitmap =>
    rw [hc] at h
    cases h
    exact ⟨rfl, rfl, rfl⟩

theorem glyphIn_eq {library : FontLibrary} {font : Font}
    (h : (library.load backend spec).1 = .ok font) (text : String) (color : Color) :
    glyphIn backend spec library text color = (font.drawn text color).toOption.map Prod.fst := by
  have hn : (Strategy.start (.uniform color)).next = .ok (color, ⟨.uniform color, 1⟩) := rfl
  rw [glyphIn, drawGlyph_run, hn, h]
  dsimp only
  cases font.drawn text color <;> rfl

theorem glyph_ok {text : String} {b : Bitmap} {s s' : RenderState}
    (h : (drawGlyph backend spec text).run s = (.ok b, s')) :
    (s'.library.load backend spec).1 = (s.library.load backend spec).1 ∧
      ∃ color, s.strategy.next = .ok (color, s'.strategy) ∧
        ∀ library : FontLibrary,
          (library.load backend spec).1 = (s.library.load backend spec).1 →
            glyphIn backend spec library text color = some b := by
  obtain ⟨color, font, entry, hn, hl, hd, hlibrary⟩ := drawGlyph_ok h
  refine ⟨by rw [hlibrary, load_again], color, hn, fun library hlib => ?_⟩
  rw [glyphIn_eq (hlib.trans hl), hd]
  rfl

/-- A tree that is drawn takes a color for each literal and is composed of the glyphs in these
colors. The colors are taken from among others here, so that subtrees have numbers of their own. -/
theorem render_composed {t : Tree String} {b : Bitmap} {s s' : RenderState}
    (h : (render backend spec t).run s = (.ok b, s')) :
    (s'.library.load backend spec).1 = (s.library.load backend spec).1 ∧
      ∃ colors, colors.length = t.literals.length ∧ s.strategy.Gives colors s'.strategy ∧
        ∀ library : FontLibrary,
          (library.load backend spec).1 = (s.library.load backend spec).1 →
            ∀ before behind, t.compose (fun k text =>
              (before ++ colors ++ behind)[k]?.bind (glyphIn backend spec library text))
                before.length = some b := by
  induction t generalizing b s s' with
  | literal text =>
    rw [render_literal] at h
    obtain ⟨hload, color, hn, hg⟩ := glyph_ok h
    refine ⟨hload, [color], rfl, ⟨_, hn, rfl⟩, fun library hlib before behind => ?_⟩
    simp [Tree.compose, hg library hlib]
  | paren inner ih =>
    rw [render_paren] at h
    exact ih h
  | binary op left right ihl ihr =>
    rw [render_binary] at h
    obtain ⟨a, s₁, hleft, h⟩ := run_bind_ok h
    obtain ⟨c, s₂, hright, h⟩ := run_bind_ok h
    obtain ⟨hcomb, hstrategy, hlibrary⟩ := combination_ok h
    obtain ⟨hload₁, colors₁, hlen₁, hgives₁, hcompose₁⟩ := ihl hleft
    obtain ⟨hload₂, colors₂, hlen₂, hgives₂, hcompose₂⟩ := ihr hright
    refine ⟨?_, colors₁ ++ colors₂, ?_, ?_, fun library hlib before behind => ?_⟩
    · rw [hlibrary, hload₂, hload₁]
    · simp [Tree.literals, hlen₁, hlen₂]
    · rw [hstrategy]
      exact gives_append hgives₁ hgives₂
    · have ha := hcompose₁ library hlib before (colors₂ ++ behind)
      have hc := hcompose₂ library (hlib.trans hload₁.symm) (before ++ colors₁) behind
      rw [List.length_append, hlen₁] at hc
      simp only [List.append_assoc] at ha hc ⊢
      simp [Tree.compose, ha, hc, hcomb, Except.toOption]
  | stray text =>
    rw [render_stray] at h
    cases h

/-- The meaning of a drawing. It takes as many colors as there are literals. Literal number `k` is
drawn in color number `k`, and the operators combine these glyphs as the tree says. Parentheses
do not matter, and the operands of an operator are drawings of their own. -/
theorem render_eq_reference {t : Tree String} {b : Bitmap} {s s' : RenderState}
    (h : (render backend spec t).run s = (.ok b, s')) :
    (∃ colors, colors.length = t.literals.length ∧ s.strategy.Gives colors s'.strategy ∧
      t.compose (fun k text => colors[k]?.bind (glyphIn backend spec s.library text)) 0 = some b) ∧
    (∀ u : Tree String, u.stripParens = t.stripParens →
      (render backend spec u).run s = (.ok b, s')) ∧
    (∀ op left right, t = .binary op left right → ∃ a c,
      ((render backend spec left).run s).1 = .ok a ∧
      ((render backend spec right).run
        { s with strategy := s.strategy.after left.literals.length }).1 = .ok c ∧
      Bitmap.combine op a c = .ok b) := by
  obtain ⟨_, colors, hlen, hgives, hcompose⟩ := render_composed h
  refine ⟨⟨colors, hlen, hgives, ?_⟩, ?_, ?_⟩
  · simpa using hcompose s.library rfl [] []
  · intro u hu
    rw [← render_stripParens u, hu, render_stripParens t]
    exact h
  · rintro op left right rfl
    rw [render_binary] at h
    obtain ⟨a, s₁, hleft, h⟩ := run_bind_ok h
    obtain ⟨c, s₂, hright, h⟩ := run_bind_ok h
    obtain ⟨hload, colors, hlen, hgives, _⟩ := render_composed hleft
    have halike : Alike backend spec s₁
        { s with strategy := s.strategy.after left.literals.length } :=
      ⟨by rw [← hlen]; exact gives_after hgives, hload⟩
    have hsame := (render_alike right halike).1
    rw [hright] at hsame
    exact ⟨a, c, by rw [hleft], hsame.symm, (combination_ok h).1⟩

/-- A face that draws every text as one dot on the baseline. -/
def dotFace : Typeface where
  metrics := .ok (1, 0)
  advance _ := .ok 1
  ink _ := .ok ⟨0, -1, [[255]]⟩

def dotBackend : FontBackend :=
  { FontBackend.empty with builtin := fun _ => .ok (some dotFace) }

def dotState : RenderState where
  strategy := .start (.once [.rgb ⟨1, 0, 0, 1⟩, .rgb ⟨0, 0, 1, 1⟩])
  library := ⟨[("dot", ⟨.builtin, 1, dotFace⟩)], []⟩
  log := []

def dotPair : Tree String := .binary .concat (.literal "A") (.paren (.literal "B"))

theorem render_eq_reference_dots :
    ∃ b, ((render .empty "dot" dotPair).run dotState).1 = .ok b ∧
      b.rows = [[⟨255, 0, 0, 255⟩, ⟨0, 0, 255, 255⟩]] ∧
      ∃ colors, colors.length = 2 ∧
        dotState.strategy.Gives colors ((render .empty "dot" dotPair).run dotState).2.strategy ∧
        dotPair.compose (fun k text =>
          colors[k]?.bind (glyphIn .empty "dot" dotState.library text)) 0 = some b := by
  have hrows : (((render .empty "dot" dotPair).run dotState).1.toOption.map Raster.rows) =
      some [[⟨255, 0, 0, 255⟩, ⟨0, 0, 255, 255⟩]] := by decide +kernel
  rcases h : (render .empty "dot" dotPair).run dotState with ⟨_ | b, s'⟩
  · rw [h] at hrows
    cases hrows
  · rw [h] at hrows
    exact ⟨b, rfl, Option.some.inj hrows, (render_eq_reference h).1⟩

end GlyphAlgebra
