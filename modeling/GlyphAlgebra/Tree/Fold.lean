import GlyphAlgebra.Tree

namespace GlyphAlgebra

/-- What to make of each kind of node, given what was made of the nodes below it. -/
structure Reduction (m : Type → Type) (α β : Type) where
  literal : String → m β
  paren : Tree α → β → m β
  binary : Operator → Tree α → Tree α → β → β → m β
  stray : α → m β

variable {m : Type → Type} {α β : Type}

/-- Pending work: a tree to visit, or a node to finish once the values below it are there. -/
inductive Task (α : Type)
  | visit (t : Tree α)
  | close (inner : Tree α)
  | join (op : Operator) (left right : Tree α)

def Tree.rounds : Tree α → Nat
  | literal _ => 1
  | paren inner => inner.rounds + 2
  | binary _ left right => left.rounds + right.rounds + 2
  | stray _ => 1

def Task.rounds : Task α → Nat
  | visit t => t.rounds
  | close _ => 1
  | join _ _ _ => 1

def Task.totalRounds : List (Task α) → Nat
  | [] => 0
  | task :: tasks => task.rounds + totalRounds tasks

/-- Every task finds the values it needs, and one value is left in the end. -/
def Balanced : List (Task α) → Nat → Prop
  | [], n => n = 1
  | .visit _ :: tasks, n => Balanced tasks (n + 1)
  | .close _ :: tasks, n + 1 => Balanced tasks (n + 1)
  | .join _ _ _ :: tasks, n + 2 => Balanced tasks (n + 1)
  | _ :: _, _ => False

theorem Balanced.visited {t : Tree α} {tasks : List (Task α)} {values : List β} {value : β}
    (h : Balanced (.visit t :: tasks) values.length) :
    Balanced tasks (value :: values).length := h

theorem Balanced.entered {inner : Tree α} {tasks : List (Task α)} {n : Nat}
    (h : Balanced (.visit (.paren inner) :: tasks) n) :
    Balanced (.visit inner :: .close inner :: tasks) n := h

theorem Balanced.divided {op : Operator} {left right : Tree α} {tasks : List (Task α)} {n : Nat}
    (h : Balanced (.visit (.binary op left right) :: tasks) n) :
    Balanced (.visit left :: .visit right :: .join op left right :: tasks) n := h

theorem Balanced.closed {inner : Tree α} {tasks : List (Task α)} {values : List β} {old new : β}
    (h : Balanced (.close inner :: tasks) (old :: values).length) :
    Balanced tasks (new :: values).length := h

theorem Balanced.joined {op : Operator} {left right : Tree α} {tasks : List (Task α)}
    {values : List β} {first second new : β}
    (h : Balanced (.join op left right :: tasks) (second :: first :: values).length) :
    Balanced tasks (new :: values).length := h

/-- Works off the tasks over a stack of values, the latest first. -/
@[specialize]
def runTasks [Monad m] (r : Reduction m α β) :
    (tasks : List (Task α)) → (values : List β) → Balanced tasks values.length → m β
  | [], [value], _ => pure value
  | .visit (.literal text) :: tasks, values, h => do
    let value ← r.literal text
    runTasks r tasks (value :: values) h.visited
  | .visit (.paren inner) :: tasks, values, h =>
    runTasks r (.visit inner :: .close inner :: tasks) values h.entered
  | .visit (.binary op left right) :: tasks, values, h =>
    runTasks r (.visit left :: .visit right :: .join op left right :: tasks) values h.divided
  | .visit (.stray value) :: tasks, values, h => do
    let value ← r.stray value
    runTasks r tasks (value :: values) h.visited
  | .close inner :: tasks, value :: values, h => do
    let value ← r.paren inner value
    runTasks r tasks (value :: values) h.closed
  | .join op left right :: tasks, second :: first :: values, h => do
    let value ← r.binary op left right first second
    runTasks r tasks (value :: values) h.joined
termination_by tasks => Task.totalRounds tasks
decreasing_by all_goals simp only [Task.totalRounds, Task.rounds, Tree.rounds]; omega

theorem balanced_visit (t : Tree α) : Balanced [.visit t] ([] : List β).length := rfl

/-- Reduces a tree bottom-up, left before right, without recursion on its depth. -/
@[specialize]
def Tree.fold [Monad m] (r : Reduction m α β) (t : Tree α) : m β :=
  runTasks r [.visit t] [] (balanced_visit t)

def Tree.reduce [Monad m] (r : Reduction m α β) : Tree α → m β
  | .literal text => r.literal text
  | .paren inner => do
    let value ← inner.reduce r
    r.paren inner value
  | .binary op left right => do
    let first ← left.reduce r
    let second ← right.reduce r
    r.binary op left right first second
  | .stray value => r.stray value

theorem runTasks_visit [Monad m] [LawfulMonad m] (r : Reduction m α β) (t : Tree α)
    (tasks : List (Task α)) (values : List β) (h : Balanced (.visit t :: tasks) values.length) :
    runTasks r (.visit t :: tasks) values h =
      t.reduce r >>= fun value => runTasks r tasks (value :: values) h.visited := by
  induction t generalizing tasks values with
  | literal text => rw [runTasks]; rfl
  | paren inner ih =>
    rw [runTasks, ih]
    simp only [Tree.reduce, bind_assoc]
    congr 1; funext value
    rw [runTasks]
  | binary op left right ihl ihr =>
    rw [runTasks, ihl]
    simp only [Tree.reduce, bind_assoc]
    congr 1; funext first
    rw [ihr]
    congr 1; funext second
    rw [runTasks]
  | stray value => rw [runTasks]; rfl

/-- The work list computes what the recursion computes, with the same effects. -/
theorem Tree.fold_eq_reduce [Monad m] [LawfulMonad m] (r : Reduction m α β) (t : Tree α) :
    t.fold r = t.reduce r := by
  rw [Tree.fold, runTasks_visit]
  simp [runTasks]

end GlyphAlgebra
