import GlyphAlgebra.CommandLine
import GlyphAlgebra.Proofs.Drawing.Nodes

namespace GlyphAlgebra

variable {backend : FontBackend} {spec : String}

/-- The next colors are there, this many, and all can be used. -/
def Strategy.Supplies (s : Strategy) (n : Nat) : Prop :=
  ∀ k < n, ∃ color next rgba, (s.after k).next = .ok (color, next) ∧ color.toRgba = .ok rgba

/-- Faults that go through where other faults are reported with their text. -/
def GlyphFault.slips : GlyphFault → Bool
  | font f => f.kind = .runtime
  | advance e => e = .infinity

/-- The first of some texts that the face does not draw, and why. -/
def Typeface.firstFault (face : Typeface) (texts : List String) : Option (String × GlyphFault) :=
  texts.findSome? fun text => (failure? (face.mask? text)).map (text, ·)

/-- A fault of the font system goes through when these texts are drawn: that of a font that could
not be loaded, or the first one met at a text. -/
def Slips (loaded : Except FontError Font) (texts : List String) : Prop :=
  (∃ f, loaded = .error (.fault f)) ∨
    ∃ font text fault, loaded = .ok font ∧ font.face.firstFault texts = some (text, fault) ∧
      fault.slips = true

/-- Why the drawing of some texts fails, if only fonts can make it fail. -/
def fontFailure (loaded : Except FontError Font) (texts : List String) : Option RenderError :=
  match loaded with
  | .error e => some (.font e)
  | .ok font => (font.face.firstFault texts).map fun found => found.2.atText found.1

theorem atText_expected (text : String) (fault : GlyphFault) :
    (fault.atText text).isExpected = !fault.slips := by
  cases fault with
  | font f => obtain ⟨kind, message⟩ := f; cases kind <;> rfl
  | advance e => cases e <;> rfl

theorem drawn_failure {font : Font} {text : String} {color : Color} {rgba : Rgba}
    (h : color.toRgba = .ok rgba) : failure? (font.drawn text color) =
      (failure? (font.face.mask? text)).map (·.atText text) := by
  unfold Font.drawn
  cases font.face.mask? text with
  | error fault => rfl
  | ok mask =>
    cases mask with
    | none => rfl
    | some mask => rw [h]; rfl

theorem literal_failure {s : RenderState} {n k : Nat} (h : s.strategy.Supplies n) (hk : k < n)
    (text : String) : literalFailure backend spec s (text, k) =
      match (s.library.load backend spec).1 with
      | .error e => some (.font e)
      | .ok font => (failure? (font.face.mask? text)).map (·.atText text) := by
  obtain ⟨color, next, rgba, hnext, hrgba⟩ := h k hk
  rw [literalFailure, drawGlyph_run]
  dsimp only
  rw [hnext]
  dsimp only
  cases (s.library.load backend spec).1 with
  | error e => rfl
  | ok font =>
    dsimp only
    rw [← drawn_failure hrgba]
    cases font.drawn text color <;> rfl

theorem findSome?_zipIdx {α β : Type} {g : α × Nat → Option β} {f : α → Option β} {l : List α}
    {k : Nat} (h : ∀ p ∈ l.zipIdx k, g p = f p.1) : (l.zipIdx k).findSome? g = l.findSome? f := by
  induction l generalizing k with
  | nil => rfl
  | cons a l ih =>
    rw [List.zipIdx_cons] at h ⊢
    have hhead : g (a, k) = f a := h _ (List.mem_cons_self ..)
    rw [List.findSome?_cons, List.findSome?_cons, hhead,
      ih fun p hp => h p (List.mem_cons_of_mem _ hp)]

theorem firstFault_atText (face : Typeface) (texts : List String) :
    (texts.findSome? fun text => (failure? (face.mask? text)).map (·.atText text)) =
      (face.firstFault texts).map fun found => found.2.atText found.1 := by
  rw [Typeface.firstFault, List.map_findSome?]
  congr 1
  funext text
  rw [Function.comp_apply]
  cases failure? (face.mask? text) <;> rfl

/-- With colors enough, a drawing fails only through its font, and as it says. -/
theorem supplied_failure {e : Expr} {s : RenderState}
    (h : s.strategy.Supplies e.literals.length) :
    failure? ((render backend spec e.toTree).run s).1 =
      fontFailure (s.library.load backend spec).1 e.literals := by
  have hstart : Alike backend spec s { s with strategy := s.strategy.after 0 } := alike_refl s
  have hliteral : ∀ p ∈ e.literals.zipIdx 0, literalFailure backend spec s p =
      match (s.library.load backend spec).1 with
      | .error err => some (.font err)
      | .ok font => (failure? (font.face.mask? p.1)).map (·.atText p.1) := by
    intro p hp
    obtain ⟨hlt, _⟩ := List.getElem?_eq_some_iff.mp (List.mem_zipIdx_iff_getElem?.mp hp)
    exact literal_failure h hlt p.1
  rw [render_failure hstart]
  cases hl : (s.library.load backend spec).1 with
  | error err =>
    rw [hl] at hliteral
    rw [findSome?_zipIdx (f := fun _ => some (.font err)) hliteral]
    obtain ⟨text, htext⟩ := exists_literal e
    obtain ⟨rest, hrest⟩ : ∃ rest, e.literals = text :: rest :=
      List.head?_eq_some_iff.mp (List.head?_eq_getElem?.trans htext)
    rw [hrest]
    rfl
  | ok font =>
    rw [hl] at hliteral
    rw [findSome?_zipIdx (f := fun text => (failure? (font.face.mask? text)).map (·.atText text))
      hliteral, firstFault_atText]
    rfl

/-- A failure goes through unreported exactly where a fault of the font system does. -/
theorem slips_iff (loaded : Except FontError Font) (texts : List String) :
    Slips loaded texts ↔ ∃ err, fontFailure loaded texts = some err ∧ err.isExpected = false := by
  cases loaded with
  | error e =>
    cases e with
    | fault f => exact ⟨fun _ => ⟨_, rfl, rfl⟩, fun _ => .inl ⟨f, rfl⟩⟩
    | invalid e => simp [Slips, fontFailure, RenderError.isExpected]
    | noUsable spec => simp [Slips, fontFailure, RenderError.isExpected]
  | ok font =>
    cases hf : font.face.firstFault texts with
    | none => simp [Slips, fontFailure, hf]
    | some found => simp [Slips, fontFailure, hf, atText_expected, Prod.ext_iff, and_assoc]

theorem draw_exit {a : Arguments} {e : Expr} {path : String} {r : Renderer} {strategy : Strategy}
    (hr : a.renderer = .ok r) (hs : r.factory = .ok strategy) :
    (a.draw backend e path).exit =
      match ((render backend r.fontSpec e.toTree).run ⟨strategy, .empty, []⟩).1 with
      | .error err => if err.isExpected then .ok 1 else .error (.render err)
      | .ok _ =>
        match targetName path with
        | .error p => .error (.path p)
        | .ok _ => .ok 0 := by
  simp only [Arguments.draw, hr, Renderer.drawTree, hs, Workshop.empty]
  rcases (render backend r.fontSpec e.toTree).run ⟨strategy, .empty, []⟩ with ⟨err | b, s'⟩
  · dsimp only
    split <;> rfl
  · dsimp only
    cases targetName path <;> rfl

/-- A drawing is complete or fails in a way that is announced, unless a fault of the font system
goes through. A run that draws then has exit status 0 or 1, provided that the drawing can be
written, and a run that does not draw meets no fault. -/
theorem foreign_fault_iff_slips (backend : FontBackend) (e : Expr) :
    (∀ spec s, s.strategy.Supplies e.literals.length →
      ((∃ b, ((render backend spec e.toTree).run s).1 = .ok b) ∨
        (∃ err, ((render backend spec e.toTree).run s).1 = .error err ∧ err.isExpected = true) ↔
        ¬Slips (s.library.load backend spec).1 e.literals)) ∧
    ∀ a : Arguments, (parse a.expression).expression = some e →
      (a.target? = none → (a.run backend).exit = .ok 0) ∧
      ∀ path r strategy, a.target? = some path → a.renderer = .ok r → r.factory = .ok strategy →
        strategy.Supplies e.literals.length →
        ((∃ err, (a.run backend).exit = .error (.render err)) ↔
          Slips (FontLibrary.empty.load backend r.fontSpec).1 e.literals) ∧
        (∀ name, targetName path = .ok name →
          ((a.run backend).exit = .ok 0 ∨ (a.run backend).exit = .ok 1 ↔
            ¬Slips (FontLibrary.empty.load backend r.fontSpec).1 e.literals)) := by
  refine ⟨fun spec s hs => ?_, fun a ha => ⟨fun ht => ?_, fun path r strategy ht hr hf hs => ?_⟩⟩
  · rw [slips_iff, ← supplied_failure hs]
    cases ((render backend spec e.toTree).run s).1 with
    | error err => simp [failure?]
    | ok b => simp [failure?]
  · rw [Arguments.run, ha, ht]
  · have hrun : (a.run backend).exit = (a.draw backend e path).exit := by
      rw [Arguments.run, ha, ht]
    have hfail : failure? ((render backend r.fontSpec e.toTree).run ⟨strategy, .empty, []⟩).1 =
        fontFailure (FontLibrary.empty.load backend r.fontSpec).1 e.literals := supplied_failure hs
    rw [hrun, draw_exit hr hf, slips_iff, ← hfail]
    cases ((render backend r.fontSpec e.toTree).run ⟨strategy, .empty, []⟩).1 with
    | error err => cases hx : err.isExpected <;> simp [failure?, hx]
    | ok b => cases targetName path <;> simp [failure?]

/-- A face in which one letter does not end. -/
def endlessFace : Typeface where
  metrics := .ok (8, 2)
  advance text := .ok (if text = "A" then 1 / 0 else 3)
  ink _ := .ok ⟨0, -1, [[255]]⟩

def endlessBackend : FontBackend :=
  { FontBackend.empty with builtin := fun _ => .ok (some endlessFace) }

def endlessRow : Expr := .binary .concat (.literal "B") (.literal "A")

def endlessRun : Arguments where
  expression := "B || A"
  output := some "row.png"
  fontSize := some 12
  fontFamily := some "serif"
  colors := some "Black"
  showsCallForm := false
  showsInfixForm := false
  showsPrefixForm := false
  verbose := false

def black : Color := .rgb ⟨0, 0, 0, 1⟩

theorem black_supplies (n : Nat) : (Strategy.start (.uniform black)).Supplies n := by
  intro k _
  have hnone : failure? black.toRgba = none := by decide +kernel
  obtain ⟨rgba, hrgba⟩ := ok_of_failure?_none hnone
  exact ⟨black, ⟨.uniform black, 0 + k + 1⟩, rgba, rfl, hrgba⟩

theorem endless_slips :
    Slips (FontLibrary.empty.load endlessBackend "12px serif").1 endlessRow.literals := by
  have hfault : ((FontLibrary.empty.load endlessBackend "12px serif").1.toOption.bind fun font =>
      font.face.firstFault endlessRow.literals) = some ("A", .advance .infinity) := by
    decide +kernel
  cases hl : (FontLibrary.empty.load endlessBackend "12px serif").1 with
  | error e => rw [hl] at hfault; cases hfault
  | ok font => rw [hl] at hfault; exact .inr ⟨font, "A", .advance .infinity, rfl, hfault, rfl⟩

theorem foreign_fault_iff_slips_endless :
    (Strategy.start (.uniform black)).Supplies endlessRow.literals.length ∧
    (parse endlessRun.expression).expression = some endlessRow ∧
    ∃ err, (endlessRun.run endlessBackend).exit = .error (.render err) := by
  have hread : (parse endlessRun.expression).expression = some endlessRow := by decide +kernel
  have hspec : fontSpecText 12 "serif" = "12px serif" := by decide +kernel
  have hmaker : endlessRun.renderer = .ok ⟨12, "serif", .ok (.start (.uniform black))⟩ := by rfl
  have hslips := endless_slips
  rw [← hspec] at hslips
  obtain ⟨_, hdraws⟩ :=
    (foreign_fault_iff_slips endlessBackend endlessRow).2 endlessRun hread
  have hsupplies := black_supplies endlessRow.literals.length
  obtain ⟨hforeign, _⟩ := hdraws "row.png" _ _ (by decide) hmaker rfl hsupplies
  exact ⟨hsupplies, hread, hforeign.mpr hslips⟩

/-- A letter without end makes a drawing fail in a way that is not announced. -/
theorem foreign_fault_goes_through :
    ¬∀ (backend : FontBackend) (spec : String) (e : Expr) (s : RenderState),
      (∀ n, s.strategy.Supplies n) → (∃ b, ((render backend spec e.toTree).run s).1 = .ok b) ∨
        ∃ err, ((render backend spec e.toTree).run s).1 = .error err ∧ err.isExpected = true := by
  intro h
  have hfailure : failure? ((render endlessBackend "12px serif" endlessRow.toTree).run
      ⟨.start (.uniform black), .empty, []⟩).1 = some (.raw (.advance .infinity)) := by
    decide +kernel
  rcases h endlessBackend "12px serif" endlessRow ⟨.start (.uniform black), .empty, []⟩
    black_supplies with ⟨b, hb⟩ | ⟨err, herr, hexpected⟩
  · rw [hb] at hfailure
    cases hfailure
  · rw [herr] at hfailure
    cases hfailure
    cases hexpected

end GlyphAlgebra
