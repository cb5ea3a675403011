import GlyphAlgebra.Proofs.Color.Iterator
import Mathlib.Data.List.Forall2

namespace GlyphAlgebra

/-- A way to keep what is left of a scheme and to take one color from it. -/
structure Source (σ : Type) where
  start : Scheme → σ
  next : σ → Except StrategyError (Color × σ)

def strategies : Source Strategy := ⟨Strategy.start, Strategy.next⟩

/-- The colors that are taken at one time, and what has ended that before they were enough. -/
structure Draws where
  colors : List Color
  stop : Option StrategyError
  deriving DecidableEq, Repr

/-- What a caller builds a strategy from. -/
inductive Recipe
  | own (scheme : Scheme)
  /-- Of the colors that a list of the caller holds at that time. -/
  | palette (list : String)
  | entry (name : String)

/-- The scheme of a recipe, with the lists of the caller as they are. -/
def Recipe.scheme (lists : String → List Color) : Recipe → Except StrategyError Scheme
  | own scheme => .ok scheme
  | palette list => Scheme.ofPalette (lists list)
  | entry name => Scheme.ofName name

/-- The lists that the caller keeps, and what was built, in that order. -/
structure Shelf (σ : Type) where
  lists : String → List Color
  built : List σ

def Shelf.empty {σ : Type} : Shelf σ := ⟨fun _ => [], []⟩

inductive ShelfStep
  | append (list : String) (color : Color)
  | build (recipe : Recipe)
  | take (i n : Nat)

namespace Source

variable {σ : Type}

def take (source : Source σ) (s : σ) : Nat → Draws × σ
  | 0 => (⟨[], none⟩, s)
  | n + 1 =>
    match source.next s with
    | .error e => (⟨[], some e⟩, s)
    | .ok (c, rest) =>
      (⟨c :: (source.take rest n).1.colors, (source.take rest n).1.stop⟩, (source.take rest n).2)

/-- A recipe without a scheme leaves nothing behind, and nothing is taken from what is not there. -/
def step (source : Source σ) (shelf : Shelf σ) : ShelfStep → Draws × Shelf σ
  | .append list color =>
    (⟨[], none⟩, { shelf with
      lists := fun l => if l = list then shelf.lists l ++ [color] else shelf.lists l })
  | .build recipe =>
    match recipe.scheme shelf.lists with
    | .ok scheme => (⟨[], none⟩, { shelf with built := shelf.built ++ [source.start scheme] })
    | .error e => (⟨[], some e⟩, shelf)
  | .take i n =>
    match shelf.built[i]? with
    | some s =>
      ((source.take s n).1, { shelf with built := shelf.built.set i (source.take s n).2 })
    | none => (⟨[], none⟩, shelf)

def after (source : Source σ) (shelf : Shelf σ) (steps : List ShelfStep) : Shelf σ :=
  steps.foldl (fun shelf s => (source.step shelf s).2) shelf

/-- The steps with what was taken in them. -/
def history (source : Source σ) (shelf : Shelf σ) : List ShelfStep → List (ShelfStep × Draws)
  | [] => []
  | s :: steps => (s, (source.step shelf s).1) :: source.history (source.step shelf s).2 steps

end Source

namespace Scheme

end Scheme

variable {scheme : Scheme} {i j n : Nat}

/-- Skipping takes colors at one time and lets them go. -/
theorem skip_eq (s : Strategy) (n : Nat) :
    s.skip n = ((strategies.take s n).2, (strategies.take s n).1.stop) := by
  induction n generalizing s with
  | zero => rfl
  | succ n ih =>
    have hnext : strategies.next s = s.next := rfl
    rw [Source.take, Strategy.skip, hnext]
    cases s.next with
    | error e => rfl
    | ok next => exact ih next.2

section Runs

variable {σ : Type} {source : Source σ} {shelf : Shelf σ} {s : σ}

end Runs

section Pairs

variable {α β : Type} {R : α → β → Prop} {as : List α} {bs : List β}

end Pairs

def red : Color := .rgb ⟨1, 0, 0, 1⟩
def blue : Color := .rgb ⟨0, 0, 1, 1⟩

end GlyphAlgebra
