import GlyphAlgebra.Proofs.Drawing.Nodes
import GlyphAlgebra.Proofs.Drawing.Sharp
import Mathlib

namespace GlyphAlgebra

variable {backend : FontBackend} {spec : String} {α : Type}

/-- Whether the ink of a text covers a pixel fully. -/
def Typeface.covers (face : Typeface) (text : String) (x y : Int) : Bool :=
  match face.mask? text with
  | .ok (some mask) => mask.coverage x y = 255
  | _ => false

def shifted (corner : Int × Int) (region : Set (Int × Int)) : Set (Int × Int) :=
  {p | (p.1 - corner.1, p.2 - corner.2) ∈ region}

/-- What an operator does to the regions of its operands. -/
def Operator.join : Operator → Set (Int × Int) → Set (Int × Int) → Set (Int × Int)
  | concat, a, b | add, a, b | or, a, b => a ∪ b
  | sub, a, b => a \ b
  | and, a, b => a ∩ b
  | xor, a, b => symmDiff a b

/-- The pixels that a tree covers: the ink of its literals, joined as its operators say. -/
def Tree.region (face : Typeface) : Tree α → Set (Int × Int)
  | literal text => {p | face.covers text p.1 p.2}
  | paren inner => inner.region face
  | binary op left right =>
    let corners := op.corners (left.extent face) (right.extent face)
    op.join (shifted corners.1 (left.region face)) (shifted corners.2 (right.region face))
  | stray _ => ∅

/-- The number of the literal that a tree shows at a pixel; the first one has the given number. -/
def Tree.shown (face : Typeface) : Nat → Tree α → Int → Int → Option Nat
  | k, literal text, x, y => if face.covers text x y then some k else none
  | k, paren inner, x, y => inner.shown face k x y
  | k, binary op left right, x, y =>
    let corners := op.corners (left.extent face) (right.extent face)
    op.selects (left.shown face k (x - corners.1.1) (y - corners.1.2))
      (right.shown face (k + left.literals.length) (x - corners.2.1) (y - corners.2.2))
  | _, stray _, _, _ => none

/-- The color of a number that a strategy hands out, if it can be used. -/
def Strategy.numbered (s : Strategy) (k : Nat) : Option Rgba :=
  match (s.after k).next with
  | .ok (color, _) => color.toRgba.toOption
  | .error _ => none

theorem selects_isSome {β : Type} {op : Operator} {f g : Option β} {a b : Set (Int × Int)}
    {p : Int × Int} (hf : p ∈ a ↔ f.isSome = true) (hg : p ∈ b ↔ g.isSome = true) :
    p ∈ op.join a b ↔ (op.selects f g).isSome = true := by
  cases op <;> cases f <;> cases g <;>
    simp_all [Operator.join, Operator.selects, Set.mem_symmDiff]

/-- A tree covers just those pixels at which it shows a literal. -/
theorem mem_region_iff (face : Typeface) (t : Tree α) (k : Nat) (x y : Int) :
    (x, y) ∈ t.region face ↔ (t.shown face k x y).isSome = true := by
  induction t generalizing k x y with
  | literal text => simp [Tree.region, Tree.shown]
  | paren inner ih => exact ih k x y
  | binary op left right ihl ihr => exact selects_isSome (ihl k _ _) (ihr _ _ _)
  | stray => simp [Tree.region, Tree.shown]

theorem covers_within {face : Typeface} {text : String} {x y : Int}
    (h : face.covers text x y = true) : Within (face.extent text) x y := by
  unfold Typeface.covers at h
  split at h
  next mask hm =>
    rw [← mask_size hm]
    apply coverage_within
    intro hzero
    rw [hzero] at h
    exact absurd h (by decide)
  next => cases h

/-- The region of a tree lies within its drawing. -/
theorem region_within {face : Typeface} {t : Tree α} {x y : Int} (h : (x, y) ∈ t.region face) :
    Within (t.extent face) x y := by
  induction t generalizing x y with
  | literal text => exact covers_within h
  | paren inner ih => exact ih h
  | binary op left right ihl ihr =>
    have hunion : ∀ a b : Set (Int × Int), op.join a b ⊆ a ∪ b := by
      intro a b p hp
      cases op <;> simp_all [Operator.join, Set.mem_symmDiff]
      tauto
    rcases hunion _ _ h with h | h
    · exact within_left (ihl h)
    · exact within_right (ihr h)
  | stray => exact absurd h (Set.notMem_empty _)

/-- Drawings side by side do not overlap. -/
theorem regions_disjoint (face : Typeface) (left right : Tree α) :
    let corners := Operator.concat.corners (left.extent face) (right.extent face)
    Disjoint (shifted corners.1 (left.region face)) (shifted corners.2 (right.region face)) := by
  intro corners
  refine Set.disjoint_left.mpr fun p hl hr => ?_
  have hleft := (region_within hl).1.2
  have hright := (region_within hr).1.1
  simp only [corners, Operator.corners] at hleft hright
  omega

/-- The mask of a literal has no partly covered pixel, and its color is opaque. -/
def SharpAt (face : Typeface) (s : Strategy) (literal : String × Nat) : Prop :=
  (∀ mask, face.mask? literal.1 = .ok (some mask) → mask.Sharp) ∧
    ∀ rgba, s.numbered literal.2 = some rgba → rgba.alpha = 255

theorem placeholder_shows (color : Nat → Option Rgba) :
    Bitmap.placeholder.Shows color fun _ _ => none := by
  intro x y
  have hclear : Bitmap.placeholder.pixel x y = .transparent := by
    rw [Bitmap.placeholder, pixel_tabulate, ite_self]
  rw [hclear]
  rfl

theorem drawn_shows {font : Font} {text : String} {color : Color} {drawn : Bitmap × LogEntry}
    {s : Strategy} {k : Nat} (h : font.drawn text color = .ok drawn)
    (hcolor : s.numbered k = color.toRgba.toOption) (hsharp : SharpAt font.face s (text, k)) :
    drawn.1.Shows s.numbered fun x y => if font.face.covers text x y then some k else none := by
  rcases drawn_ok h with ⟨hm, hb⟩ | ⟨mask, rgba, hm, hrgba, hb⟩
  · rw [hb]
    simpa [Typeface.covers, hm] using placeholder_shows s.numbered
  · rw [hrgba] at hcolor
    rw [hb]
    have hshows := fill_shows (hsharp.1 mask hm) hcolor (hsharp.2 rgba hcolor)
    simpa [Typeface.covers, hm] using hshows

/-- A drawing of sharp literals in opaque colors shows the literals that its tree shows. The
literals are numbered from a number of their own here, and the state is like the one that the
numbers refer to. -/
theorem render_shows {t : Tree String} {s₀ s s' : RenderState} {k : Nat} {b : Bitmap} {font : Font}
    (h : Alike backend spec s { s₀ with strategy := s₀.strategy.after k })
    (hfont : (s₀.library.load backend spec).1 = .ok font)
    (hsharp : ∀ literal ∈ t.literals.zipIdx k, SharpAt font.face s₀.strategy literal)
    (hb : (render backend spec t).run s = (.ok b, s')) :
    b.Shows s₀.strategy.numbered (t.shown font.face k) := by
  induction t generalizing s s' k b with
  | literal text =>
    rw [render_literal] at hb
    obtain ⟨color, font', entry, hnext, hload, hdrawn, _⟩ := drawGlyph_ok hb
    cases hfont.symm.trans (h.2.symm.trans hload)
    rw [h.1] at hnext
    have hcolor : s₀.strategy.numbered k = color.toRgba.toOption := by
      rw [Strategy.numbered, hnext]
    exact drawn_shows hdrawn hcolor (hsharp (text, k) (List.mem_singleton.mpr rfl))
  | paren inner ih =>
    rw [render_paren] at hb
    exact ih h hsharp hb
  | binary op left right ihl ihr =>
    rw [render_binary] at hb
    obtain ⟨a, s₁, hleft, hb⟩ := run_bind_ok hb
    obtain ⟨c, s₂, hright, hb⟩ := run_bind_ok hb
    have halike := alike_moves h hleft
    obtain ⟨fontl, hfontl, hsizel⟩ := render_size hleft
    obtain ⟨fontr, hfontr, hsizer⟩ := render_size hright
    cases hfont.symm.trans (h.2.symm.trans hfontl)
    cases hfont.symm.trans (halike.2.symm.trans hfontr)
    rw [Tree.literals, List.zipIdx_append] at hsharp
    have hshowsl := ihl h (fun p hp => hsharp p (List.mem_append_left _ hp)) hleft
    have hshowsr := ihr halike (fun p hp => hsharp p (List.mem_append_right _ hp)) hright
    have hshows := combine_shows (hasCells_of_extent hsizel) hshowsl hshowsr (combination_ok hb).1
    -- The corners hang on the sizes of the operands, which are the extents of their trees.
    rw [hsizel, hsizer] at hshows
    exact hshows
  | stray text =>
    rw [render_stray] at hb
    cases hb

theorem alike_drawn {t : Tree String} {s s' s'' : RenderState} {b : Bitmap}
    (h : Alike backend spec s s'') (hb : (render backend spec t).run s = (.ok b, s')) :
    ((render backend spec t).run s'').1 = .ok b := by
  rw [← (render_alike t h).1, hb]

/-- With a tree, each of its nodes is drawn, from the state in which its turn comes. -/
theorem render_nodes {t u : Tree String} {s₀ s s' : RenderState} {k j : Nat} {b : Bitmap}
    (h : Alike backend spec s { s₀ with strategy := s₀.strategy.after k })
    (hb : (render backend spec t).run s = (.ok b, s')) (hu : (j, u) ∈ t.nodes k) :
    ∃ a, ((render backend spec u).run { s₀ with strategy := s₀.strategy.after j }).1 = .ok a := by
  induction t generalizing s s' k b with
  | literal text =>
    cases List.mem_singleton.mp hu
    exact ⟨b, alike_drawn h hb⟩
  | paren inner ih =>
    rcases List.mem_cons.mp hu with heq | hu
    · cases heq
      exact ⟨b, alike_drawn h hb⟩
    · rw [render_paren] at hb
      exact ih h hb hu
  | binary op left right ihl ihr =>
    rcases List.mem_cons.mp hu with heq | hu
    · cases heq
      exact ⟨b, alike_drawn h hb⟩
    · rw [render_binary] at hb
      obtain ⟨a, s₁, hleft, hb⟩ := run_bind_ok hb
      obtain ⟨c, s₂, hright, hb⟩ := run_bind_ok hb
      rcases List.mem_append.mp hu with hu | hu
      · exact ihl h hleft hu
      · exact ihr (alike_moves h hleft) hright hu
  | stray text =>
    rw [render_stray] at hb
    cases hb

/-- The operators are operations on sets of pixels, if all literals are sharp and all colors are
opaque. A drawing covers the region of its tree and shows there the literals that the operators
select, each in its color. The two parts of a concatenation do not overlap. A blend of the operands
of an operator meets no alpha, factor, product or sum other than 0 and 1. -/
theorem sharp_render_region {t : Tree String} {s : RenderState} {b : Bitmap} {font : Font}
    (hb : ((render backend spec t).run s).1 = .ok b)
    (hfont : (s.library.load backend spec).1 = .ok font)
    (hmask : ∀ text ∈ t.literals, ∀ mask, font.face.mask? text = .ok (some mask) → mask.Sharp)
    (hcolor : ∀ k < t.literals.length, ∀ rgba, s.strategy.numbered k = some rgba →
      rgba.alpha = 255) :
    (∀ x y, (x, y) ∈ t.region font.face → (b.pixel x y).alpha = 255 ∧
      ∃ k, t.shown font.face 0 x y = some k ∧ s.strategy.numbered k = some (b.pixel x y)) ∧
    (∀ x y, (x, y) ∉ t.region font.face → (b.pixel x y).alpha = 0) ∧
    (∀ left right : Tree String,
      let corners := Operator.concat.corners (left.extent font.face) (right.extent font.face)
      Disjoint (shifted corners.1 (left.region font.face))
        (shifted corners.2 (right.region font.face))) ∧
    ∀ k op left right, (k, .binary op left right) ∈ t.nodes 0 → ∃ a c,
      ((render backend spec left).run { s with strategy := s.strategy.after k }).1 = .ok a ∧
      ((render backend spec right).run
        { s with strategy := s.strategy.after (k + left.literals.length) }).1 = .ok c ∧
      ∀ mode x y x' y',
        ((BlendMode.alphas mode (a.pixel x y) (c.pixel x' y')).getLast?.map byteOfUnit =
          some (blendPixel mode (a.pixel x y) (c.pixel x' y')).alpha) ∧
        ∀ v ∈ BlendMode.alphas mode (a.pixel x y) (c.pixel x' y'), v = 0 ∨ v = 1 := by
  have hsharp : ∀ literal ∈ t.literals.zipIdx 0, SharpAt font.face s.strategy literal := by
    intro literal hl
    obtain ⟨hlt, _⟩ := List.getElem?_eq_some_iff.mp (List.mem_zipIdx_iff_getElem?.mp hl)
    exact ⟨hmask _ (List.fst_mem_of_mem_zipIdx hl), hcolor _ hlt⟩
  have hstart : Alike backend spec s { s with strategy := s.strategy.after 0 } := alike_refl s
  have hrun : (render backend spec t).run s = (.ok b, ((render backend spec t).run s).2) :=
    Prod.ext hb rfl
  have hshows := render_shows hstart hfont hsharp hrun
  refine ⟨fun x y hin => ?_, fun x y hout => ?_, regions_disjoint font.face, ?_⟩
  · obtain ⟨k, hk⟩ := Option.isSome_iff_exists.mp ((mem_region_iff _ t 0 x y).mp hin)
    have hpaints := hshows x y
    rw [hk] at hpaints
    exact ⟨hpaints.2, k, hk, hpaints.1⟩
  · rw [mem_region_iff _ t 0, Option.not_isSome_iff_eq_none] at hout
    have hpaints := hshows x y
    rwa [hout] at hpaints
  · intro k op left right hnode
    obtain ⟨d, hd⟩ := render_nodes hstart hrun hnode
    have hd' : (render backend spec (.binary op left right)).run
        { s with strategy := s.strategy.after k } = (.ok d, _) := Prod.ext hd rfl
    rw [render_binary] at hd'
    obtain ⟨a, s₁, hleft, hd'⟩ := run_bind_ok hd'
    obtain ⟨c, s₂, hright, _⟩ := run_bind_ok hd'
    have halike := alike_moves (alike_refl _) hleft
    have hliterals := literals_nodes hnode
    rw [Tree.literals, List.zipIdx_append] at hliterals
    have hshowsl := render_shows (alike_refl _) hfont
      (fun p hp => hsharp p (hliterals (List.mem_append_left _ hp))) hleft
    have hshowsr := render_shows halike hfont
      (fun p hp => hsharp p (hliterals (List.mem_append_right _ hp))) hright
    exact ⟨a, c, by rw [hleft], alike_drawn halike hright, fun mode x y x' y' =>
      ⟨rfl, alphas_exact mode (hshowsl x y).sharp (hshowsr x' y').sharp⟩⟩

/-- A face that fills both pixels of one letter and the last pixel of all other texts. -/
def stripeFace : Typeface where
  metrics := .ok (1, 0)
  advance _ := .ok 2
  ink text := .ok ⟨0, -1, [[if text = "A" then 255 else 0, 255]]⟩

def stripeState : RenderState where
  strategy := .start (.once [.rgb ⟨1, 0, 0, 1⟩, .rgb ⟨0, 1, 0, 1⟩, .rgb ⟨0, 0, 1, 1⟩,
    .rgb ⟨1, 1, 1, 1⟩])
  library := ⟨[("stripe", ⟨.builtin, 1, stripeFace⟩)], []⟩
  log := []

def stripes : Tree String :=
  .binary .concat (.binary .sub (.literal "A") (.literal "B"))
    (.binary .and (.literal "A") (.literal "B"))

theorem stripes_sharp (text : String) (ht : text ∈ stripes.literals) (mask : Mask)
    (hm : stripeFace.mask? text = .ok (some mask)) : mask.Sharp := by
  have hall : ∀ text ∈ stripes.literals, ((stripeFace.mask? text).toOption.join.map fun mask =>
      decide (∀ c ∈ mask.cells, c = 0 ∨ c = 255)) = some true := by decide +kernel
  have hmask := hall text ht
  rw [hm] at hmask
  intro c hc
  exact of_decide_eq_true (Option.some.inj hmask) c hc

theorem stripes_opaque (k : Nat) (hk : k < stripes.literals.length) (rgba : Rgba)
    (h : stripeState.strategy.numbered k = some rgba) : rgba.alpha = 255 := by
  have hall : ∀ k < stripes.literals.length,
      (stripeState.strategy.numbered k).map Rgba.alpha = some 255 := by decide +kernel
  have halpha := hall k hk
  rw [h] at halpha
  exact Option.some.inj halpha

theorem sharp_render_region_stripes :
    ∃ b, ((render .empty "stripe" stripes).run stripeState).1 = .ok b ∧
      b.pixel 0 0 = ⟨255, 0, 0, 255⟩ ∧ (b.pixel 1 0).alpha = 0 ∧ (b.pixel 2 0).alpha = 0 ∧
      b.pixel 3 0 = ⟨255, 255, 255, 255⟩ := by
  have hnone : failure? ((render .empty "stripe" stripes).run stripeState).1 = none := by
    decide +kernel
  obtain ⟨b, hb⟩ := ok_of_failure?_none hnone
  have hfont : (stripeState.library.load .empty "stripe").1 = .ok ⟨.builtin, 1, stripeFace⟩ := rfl
  obtain ⟨hinside, houtside, _, _⟩ := sharp_render_region hb hfont stripes_sharp stripes_opaque
  have hregion (x y : Int) := mem_region_iff stripeFace stripes 0 x y
  have hpixel (x : Int) (k : Nat) (rgba : Rgba) (hshown : stripes.shown stripeFace 0 x 0 = some k)
      (hcolor : stripeState.strategy.numbered k = some rgba) : b.pixel x 0 = rgba := by
    obtain ⟨_, k', hk', hnumbered⟩ := hinside x 0 ((hregion x 0).mpr (by rw [hshown]; rfl))
    cases hshown.symm.trans hk'
    exact Option.some.inj (hnumbered.symm.trans hcolor)
  have hclear (x : Int) (hshown : stripes.shown stripeFace 0 x 0 = none) :
      (b.pixel x 0).alpha = 0 := by
    apply houtside
    rw [hregion, hshown]
    decide
  exact ⟨b, hb, hpixel 0 0 _ (by decide +kernel) (by decide +kernel), hclear 1 (by decide +kernel),
    hclear 2 (by decide +kernel), hpixel 3 3 _ (by decide +kernel) (by decide +kernel)⟩

end GlyphAlgebra
