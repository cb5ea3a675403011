import GlyphAlgebra.Proofs.Drawing.Outcome
import GlyphAlgebra.Proofs.Drawing.Requests

namespace GlyphAlgebra

variable {backend : FontBackend} {spec : String}

/-- What answers the calls of the fold that draws a tree. -/
def drawer (backend : FontBackend) (spec : String) : Responder RenderState RenderError Bitmap
  | .literal text, s => (drawGlyph backend spec text).run s
  | .paren _ inner, s => (.ok inner, s)
  | .binary op _ _ first second, s => (drawCombination op first second).run s

def FoldError.ofDrawing : FoldError RenderError → RenderError
  | raised e => e
  | stray e => .stray e

/-- The text that a call asks to draw. -/
def Call.text? {β : Type} : Call β → Option String
  | literal text => some text
  | _ => none

/-- Why the leaf of the given number fails, and the strategy that it leaves. A literal takes its
color before anything else can fail; what is no expression takes none. -/
inductive LeafFails (backend : FontBackend) (spec : String) (s : RenderState) (k : Nat) :
    Tree String → RenderError → Strategy → Prop
  | glyph {text : String} {e : RenderError} {next : Color × Strategy}
      (hnext : (s.strategy.after k).next = .ok next)
      (h : ((drawGlyph backend spec text).run
        { s with strategy := s.strategy.after k }).1 = .error e) :
      LeafFails backend spec s k (.literal text) e (s.strategy.after (k + 1))
  | exhausted {e : StrategyError} (hnext : (s.strategy.after k).next = .error e) (text : String) :
      LeafFails backend spec s k (.literal text) (.strategy e) (s.strategy.after k)
  | stray (text : String) :
      LeafFails backend spec s k (.stray text) (.stray ⟨text⟩) (s.strategy.after k)

/-- Leaves are drawn in turn until one fails, the first of them in the color of the given number:
the leaves, the texts that are asked for, the failure, and the strategy that is left. -/
inductive Tries (backend : FontBackend) (spec : String) (s : RenderState) :
    Nat → List (Tree String) → List String → Option RenderError → Strategy → Prop
  | done (k : Nat) : Tries backend spec s k [] [] none (s.strategy.after k)
  | drawn {k : Nat} {text : String} {leaves : List (Tree String)} {texts : List String}
      {failure : Option RenderError} {strategy : Strategy}
      (h : literalFailure backend spec s (text, k) = none)
      (hrest : Tries backend spec s (k + 1) leaves texts failure strategy) :
      Tries backend spec s k (.literal text :: leaves) (text :: texts) failure strategy
  | failed {k : Nat} {leaf : Tree String} {e : RenderError} {strategy : Strategy}
      (h : LeafFails backend spec s k leaf e strategy) (leaves : List (Tree String)) :
      Tries backend spec s k (leaf :: leaves) leaf.literals (some e) strategy

namespace Tries

variable {s : RenderState} {k : Nat} {leaves leaves' : List (Tree String)}
  {texts texts' : List String} {failure : Option RenderError} {strategy strategy' : Strategy}

theorem strategy_eq (h : Tries backend spec s k leaves texts none strategy) :
    strategy = s.strategy.after (k + leaves.length) := by
  generalize hf : (none : Option RenderError) = outcome at h
  induction h with
  | done => rfl
  | drawn _ _ ih => rw [ih hf, List.length_cons, Nat.add_assoc, Nat.add_comm 1]
  | failed => cases hf

theorem append (h : Tries backend spec s k leaves texts none strategy)
    (h' : Tries backend spec s (k + leaves.length) leaves' texts' failure strategy') :
    Tries backend spec s k (leaves ++ leaves') (texts ++ texts') failure strategy' := by
  generalize hf : (none : Option RenderError) = outcome at h
  induction h with
  | done => exact h'
  | drawn hd _ ih =>
    apply Tries.drawn hd
    apply ih _ hf
    rwa [List.length_cons, Nat.add_comm _ 1, ← Nat.add_assoc] at h'
  | failed => cases hf

/-- Whatever the outcome, the strategy has only moved on. -/
theorem taken (h : Tries backend spec s k leaves texts failure strategy) :
    ∃ n, strategy = s.strategy.after n := by
  induction h with
  | done k => exact ⟨k, rfl⟩
  | drawn _ _ ih => exact ih
  | @failed k leaf e strategy hl _ =>
    cases hl with
    | glyph => exact ⟨k + 1, rfl⟩
    | exhausted => exact ⟨k, rfl⟩
    | stray => exact ⟨k, rfl⟩

/-- After a failure the leaves that are left do not matter. -/
theorem stop {e : RenderError} (h : Tries backend spec s k leaves texts (some e) strategy)
    (leaves' : List (Tree String)) :
    Tries backend spec s k (leaves ++ leaves') texts (some e) strategy := by
  generalize hf : some e = outcome at h ⊢
  induction h with
  | done => cases hf
  | drawn hd _ ih => exact .drawn hd (ih hf)
  | failed hl leaves => exact .failed hl (leaves ++ leaves')

theorem divided {e : RenderError} (h : Tries backend spec s k leaves texts (some e) strategy) :
    ∃ before leaf after, leaves = before.map Tree.literal ++ leaf :: after ∧
      texts = before ++ leaf.literals ∧
      (∀ i text, before[i]? = some text → literalFailure backend spec s (text, k + i) = none) ∧
      LeafFails backend spec s (k + before.length) leaf e strategy := by
  generalize hf : some e = outcome at h
  induction h with
  | done => cases hf
  | @drawn k text leaves texts _ _ hd _ ih =>
    obtain ⟨before, leaf, after, rfl, rfl, hbefore, hleaf⟩ := ih hf
    refine ⟨text :: before, leaf, after, rfl, rfl, fun i text' hi => ?_, ?_⟩
    · cases i with
      | zero => cases hi; exact hd
      | succ i => rw [Nat.add_comm i, ← Nat.add_assoc]; exact hbefore i text' hi
    · rwa [Nat.add_assoc, Nat.add_comm 1] at hleaf
  | @failed k leaf _ _ hl leaves =>
    cases hf
    exact ⟨[], leaf, leaves, rfl, rfl, fun i text hi => by simp at hi, hl⟩

end Tries

theorem next_after {s next : Strategy} {color : Color} (h : s.next = .ok (color, next)) :
    next = s.after 1 := by
  have hgives : s.Gives [color] next := ⟨next, h, rfl⟩
  exact gives_after hgives

theorem glyph_tries {s₀ s : RenderState} {k : Nat}
    (h : Alike backend spec s { s₀ with strategy := s₀.strategy.after k }) (text : String) :
    Tries backend spec s₀ k [.literal text] [text]
      (failure? ((drawGlyph backend spec text).run s).1)
      ((drawGlyph backend spec text).run s).2.strategy := by
  have hstrategy : s.strategy = s₀.strategy.after k := h.1
  cases hn : s.strategy.next with
  | error e =>
    have hrun : (drawGlyph backend spec text).run s = (.error (.strategy e), s) := by
      rw [drawGlyph_run, hn]
    rw [hrun, hstrategy]
    rw [hstrategy] at hn
    exact .failed (.exhausted hn text) []
  | ok next =>
    rw [(glyph_left hn).1, next_after hn, hstrategy, after_after, (glyph_alike h).1]
    rw [hstrategy] at hn
    cases hr : ((drawGlyph backend spec text).run
      { s₀ with strategy := s₀.strategy.after k }).1 with
    | error e => exact .failed (.glyph hn hr) []
    | ok b => exact .drawn (by rw [literalFailure, hr]; rfl) (.done (k + 1))

/-- The fold over the tree with its calls written down is the drawing, and it tries the leaves in
turn. -/
def FoldTries (backend : FontBackend) (spec : String) (s₀ : RenderState) (k : Nat)
    (t : Tree String) (s : RenderState) (calls : List (Call Bitmap)) : Prop :=
  ∃ result s' new,
    (t.reduce (drawer backend spec).recorded.reduction).run (s, calls) =
      (result, s', calls ++ new) ∧
    (render backend spec t).run s = (result.mapError FoldError.ofDrawing, s') ∧
    Tries backend spec s₀ k t.leaves (new.filterMap Call.text?)
      (failure? (result.mapError FoldError.ofDrawing)) s'.strategy

section folding

variable {s₀ s : RenderState} {k : Nat} {calls : List (Call Bitmap)}

theorem literal_tries (h : Alike backend spec s { s₀ with strategy := s₀.strategy.after k })
    (text : String) (calls : List (Call Bitmap)) :
    FoldTries backend spec s₀ k (.literal text) s calls := by
  have htries := glyph_tries h text
  refine ⟨((drawGlyph backend spec text).run s).1.mapError .raised,
    ((drawGlyph backend spec text).run s).2, [.literal text], rfl, ?_, ?_⟩
  · rw [render_literal]
    rcases (drawGlyph backend spec text).run s with ⟨_ | b, s'⟩ <;> rfl
  · rcases hr : (drawGlyph backend spec text).run s with ⟨_ | b, s'⟩ <;>
      rw [hr] at htries <;> exact htries

theorem paren_tries {inner : Tree String} (h : FoldTries backend spec s₀ k inner s calls) :
    FoldTries backend spec s₀ k (.paren inner) s calls := by
  obtain ⟨result, s', new, hrun, hrender, htries⟩ := h
  unfold FoldTries
  rw [Tree.reduce, run_bind, hrun, render_paren, hrender]
  cases result with
  | error e => exact ⟨.error e, s', new, rfl, rfl, htries⟩
  | ok b =>
    have htexts : (new ++ [Call.paren inner b]).filterMap Call.text? =
        new.filterMap Call.text? := by
      rw [List.filterMap_append]
      exact List.append_nil _
    refine ⟨.ok b, s', new ++ [.paren inner b], by rw [← List.append_assoc]; rfl, rfl, ?_⟩
    rw [htexts]
    exact htries

theorem binary_tries {op : Operator} {left right : Tree String}
    (h : Alike backend spec s { s₀ with strategy := s₀.strategy.after k })
    (hleft : FoldTries backend spec s₀ k left s calls)
    (hright : ∀ s₁ calls₁, Alike backend spec s₁
        { s₀ with strategy := s₀.strategy.after (k + left.leaves.length) } →
      FoldTries backend spec s₀ (k + left.leaves.length) right s₁ calls₁) :
    FoldTries backend spec s₀ k (.binary op left right) s calls := by
  obtain ⟨result, s₁, new, hrun, hrender, htries⟩ := hleft
  unfold FoldTries
  rw [Tree.reduce, run_bind, hrun, render_binary, run_bind, hrender]
  cases result with
  | error e => exact ⟨.error e, s₁, new, rfl, rfl, htries.stop _⟩
  | ok a =>
    obtain ⟨result, s₂, more, hrun, hrender', htries'⟩ := hright s₁ (calls ++ new)
      ⟨htries.strategy_eq, (alike_moves h hrender).2⟩
    have htries := htries.append htries'
    dsimp only [Except.mapError]
    rw [run_bind, hrun, run_bind, hrender']
    cases result with
    | error e =>
      refine ⟨.error e, s₂, new ++ more, by rw [← List.append_assoc], rfl, ?_⟩
      rwa [List.filterMap_append]
    | ok c =>
      obtain ⟨d, hcombination⟩ := combination_of_drawn hrender op c s₂
      have htexts : (new ++ more ++ [Call.binary op left right a c]).filterMap Call.text? =
          new.filterMap Call.text? ++ more.filterMap Call.text? := by
        rw [List.filterMap_append, List.filterMap_append]
        exact List.append_nil _
      refine ⟨.ok d, _, new ++ more ++ [.binary op left right a c], ?_, hcombination, ?_⟩
      · have hanswer : ((drawer backend spec).recorded.reduction.binary op left right a c).run
            (s₂, calls ++ new ++ more) =
            (((drawCombination op a c).run s₂).1.mapError .raised,
              ((drawCombination op a c).run s₂).2,
              calls ++ new ++ more ++ [.binary op left right a c]) := rfl
        dsimp only
        rw [hanswer, hcombination, List.append_assoc, List.append_assoc, ← List.append_assoc new]
        rfl
      · rw [htexts]
        exact htries

theorem render_tries (t : Tree String)
    (h : Alike backend spec s { s₀ with strategy := s₀.strategy.after k })
    (calls : List (Call Bitmap)) : FoldTries backend spec s₀ k t s calls := by
  induction t generalizing s k calls with
  | literal text => exact literal_tries h text calls
  | paren inner ih => exact paren_tries (ih h calls)
  | binary op left right ihl ihr =>
    exact binary_tries h (ihl h calls) fun _ calls₁ h₁ => ihr h₁ calls₁
  | stray text =>
    exact ⟨.error (.stray ⟨text⟩), s, [], by rw [List.append_nil]; rfl, by rw [render_stray]; rfl,
      h.1 ▸ .failed (.stray text) []⟩

end folding

theorem drawn_not_bitmap (font : Font) (text : String) (color : Color) (b : BitmapError) :
    font.drawn text color ≠ .error (.bitmap b) := by
  unfold Font.drawn
  cases font.face.mask? text with
  | error fault =>
    intro h
    have hfault : fault.atText text = .bitmap b := Except.error.inj h
    unfold GlyphFault.atText at hfault
    split at hfault <;> cases hfault
  | ok mask =>
    cases mask with
    | none => nofun
    | some mask => cases color.toRgba <;> nofun

theorem glyph_not_bitmap (text : String) (s : RenderState) (b : BitmapError) :
    ((drawGlyph backend spec text).run s).1 ≠ .error (.bitmap b) := by
  rw [drawGlyph_run]
  cases s.strategy.next with
  | error e => nofun
  | ok next =>
    dsimp only
    cases (s.library.load backend spec).1 with
    | error e => nofun
    | ok font =>
      dsimp only
      cases hd : font.drawn text next.1 with
      | ok drawn => nofun
      | error e =>
        intro h
        cases h
        exact drawn_not_bitmap font text next.1 b hd

theorem LeafFails.not_bitmap {s : RenderState} {k : Nat} {leaf : Tree String} {e : RenderError}
    {strategy : Strategy} (h : LeafFails backend spec s k leaf e strategy) (b : BitmapError) :
    e ≠ .bitmap b := by
  cases h with
  | @glyph text _ _ _ h =>
    rintro rfl
    exact glyph_not_bitmap text _ b h
  | exhausted => nofun
  | stray => nofun

/-- A drawing that fails does so as the first leaf does that cannot be drawn. The literals before it
are drawn, each in the color of its number, the texts after it are not asked for, and no operator
fails. Requests for fonts are those of one resolution, made while the first leaf is drawn. -/
theorem render_fails_first (backend : FontBackend) (spec : String) (t : Tree String)
    (s : RenderState) :
    ∃ result s' calls,
      (t.fold (drawer backend spec).recorded.reduction).run (s, []) = (result, s', calls) ∧
      (render backend spec t).run s = (result.mapError FoldError.ofDrawing, s') ∧
      (∀ e, result.mapError FoldError.ofDrawing = .error e →
        ∃ texts leaf after, t.leaves = texts.map Tree.literal ++ leaf :: after ∧
          (∀ k text, texts[k]? = some text → ∃ b, ((drawGlyph backend spec text).run
            { s with strategy := s.strategy.after k }).1 = .ok b) ∧
          LeafFails backend spec s texts.length leaf e s'.strategy ∧
          calls.filterMap Call.text? = texts ++ leaf.literals ∧ ∀ b, e ≠ .bitmap b) ∧
      (s.library = .empty → ∀ first rest, t.leaves = first :: rest →
        s'.library.requests = ((render backend spec first).run s).2.library.requests ∧
        s'.library.requests =
          if first.isLiteral && s.strategy.next.isOk then (backend.resolve spec).1 else []) := by
  have hstart : Alike backend spec s { s with strategy := s.strategy.after 0 } := alike_refl s
  obtain ⟨result, s', calls, hrun, hrender, htries⟩ := render_tries t hstart []
  refine ⟨result, s', calls, ?_, hrender, fun e he => ?_, fun hs first rest hleaves => ?_⟩
  · rw [Tree.fold_eq_reduce]
    exact hrun
  · rw [he] at htries
    obtain ⟨texts, leaf, after, hleaves, htexts, hdrawn, hleaf⟩ := htries.divided
    rw [Nat.zero_add] at hleaf
    refine ⟨texts, leaf, after, hleaves, fun k text hk => ?_, hleaf, htexts, hleaf.not_bitmap⟩
    have hnone := hdrawn k text hk
    rw [Nat.zero_add] at hnone
    exact ok_of_failure?_none hnone
  · have hfirst : first ∈ t.leaves := hleaves ▸ List.mem_cons_self ..
    have hrequests : s'.library.requests =
        ((render backend spec first).run s).2.library.requests := by
      rw [← render_requests s hleaves, hrender]
    exact ⟨hrequests, hrequests.trans (leaf_requests hfirst hs)⟩

/-- A face that lacks one letter. -/
def gapFace : Typeface where
  metrics := .ok (1, 0)
  advance text := if text = "B" then .error ⟨.value, "no outline"⟩ else .ok 1
  ink _ := .ok ⟨0, -1, [[255]]⟩

def gapBackend : FontBackend :=
  { FontBackend.empty with builtin := fun _ => .ok (some gapFace) }

def gapState : RenderState where
  strategy := .start (.once [.rgb ⟨1, 0, 0, 1⟩, .rgb ⟨0, 0, 1, 1⟩, .rgb ⟨0, 1, 0, 1⟩])
  library := .empty
  log := []

def gapRow : Tree String :=
  .binary .concat (.literal "A") (.paren (.binary .add (.literal "B") (.stray "C")))

theorem render_fails_first_gap :
    gapState.library = .empty ∧
    ((render gapBackend "12px serif" gapRow).run gapState).2.library.requests = [⟨.builtin, 12⟩] ∧
    ∃ (texts : List String) (leaf : Tree String) (after : List (Tree String)),
      gapRow.leaves = texts.map Tree.literal ++ leaf :: after ∧
      LeafFails gapBackend "12px serif" gapState texts.length leaf
        (.glyph "B" (.font ⟨.value, "no outline"⟩))
        ((render gapBackend "12px serif" gapRow).run gapState).2.strategy := by
  have hfailure : failure? ((render gapBackend "12px serif" gapRow).run gapState).1 =
      some (.glyph "B" (.font ⟨.value, "no outline"⟩)) := by decide +kernel
  have hresolved : (gapBackend.resolve "12px serif").1 = [⟨.builtin, 12⟩] := by decide +kernel
  obtain ⟨result, s', calls, _, hrender, hfails, hrequests⟩ :=
    render_fails_first gapBackend "12px serif" gapRow gapState
  rw [hrender] at hfailure ⊢
  refine ⟨rfl, ((hrequests rfl _ _ rfl).2).trans hresolved, ?_⟩
  cases hr : result.mapError FoldError.ofDrawing with
  | ok b => rw [hr] at hfailure; cases hfailure
  | error e =>
    rw [hr] at hfailure
    cases hfailure
    obtain ⟨texts, leaf, after, hleaves, _, hleaf, _⟩ := hfails _ hr
    exact ⟨texts, leaf, after, hleaves, hleaf⟩

end GlyphAlgebra
