import GlyphAlgebra.Tree.Fold

namespace GlyphAlgebra

variable {m : Type → Type} {α β : Type} [Monad m]

/-- One round of the loop that does not know its stacks to fit: it takes up a task, and has no
result where a value is missing. -/
def Task.round (r : Reduction m α β) :
    Task α → List (Task α) → List β → m (Option (List (Task α) × List β))
  | .visit (.literal text), tasks, values => do
    let value ← r.literal text
    return some (tasks, value :: values)
  | .visit (.paren inner), tasks, values =>
    return some (.visit inner :: .close inner :: tasks, values)
  | .visit (.binary op left right), tasks, values =>
    return some (.visit left :: .visit right :: .join op left right :: tasks, values)
  | .visit (.stray value), tasks, values => do
    let value ← r.stray value
    return some (tasks, value :: values)
  | .close inner, tasks, value :: values => do
    let value ← r.paren inner value
    return some (tasks, value :: values)
  | .join op left right, tasks, second :: first :: values => do
    let value ← r.binary op left right first second
    return some (tasks, value :: values)
  | _, _, _ => return none

/-- Works off the tasks in at most the given number of rounds. There is no result if a round is
missing, or a value, or if not just one value is left. -/
def runRounds (r : Reduction m α β) : Nat → List (Task α) → List β → m (Option β)
  | _, [], [value] => return some value
  | _, [], _ => return none
  | 0, _ :: _, _ => return none
  | n + 1, task :: tasks, values => do
    match ← task.round r tasks values with
    | some (tasks, values) => runRounds r n tasks values
    | none => return none

/-- A counted task leaves a round for itself. -/
theorem exists_round {task : Task α} {tasks : List (Task α)} {n : Nat}
    (h : Task.totalRounds (task :: tasks) ≤ n) : ∃ k, n = k + 1 := by
  have hpos : 0 < task.rounds := by
    cases task with
    | visit t => cases t <;> simp [Task.rounds, Tree.rounds]
    | close | join => exact Nat.one_pos
  simp only [Task.totalRounds] at h
  exact ⟨n - 1, by omega⟩

/-- Stacks that fit never run out, and the rounds that were counted are enough. -/
theorem runRounds_eq [LawfulMonad m] (r : Reduction m α β) (tasks : List (Task α))
    (values : List β) (h : Balanced tasks values.length) {n : Nat}
    (hn : Task.totalRounds tasks ≤ n) :
    runRounds r n tasks values = some <$> runTasks r tasks values h := by
  fun_induction runTasks r tasks values h generalizing n with
  | case1 => simp [runRounds]
  | case2 text tasks values h _ ih
  | case5 text tasks values h _ ih
  | case6 inner tasks value values h _ ih
  | case7 op left right tasks second first values h _ ih =>
    obtain ⟨k, rfl⟩ := exists_round hn
    simp only [Task.totalRounds, Task.rounds, Tree.rounds] at hn
    simp only [runRounds, Task.round, bind_assoc, pure_bind, map_bind]
    congr 1; funext value
    exact ih value (by omega)
  | case3 inner tasks values h _ ih
  | case4 op left right tasks values h _ ih =>
    obtain ⟨k, rfl⟩ := exists_round hn
    simp only [runRounds, Task.round, pure_bind]
    apply ih
    simp only [Task.totalRounds, Task.rounds, Tree.rounds] at hn ⊢
    omega

/-- For a tree the loop ends with one value and never lacks one, and it does what the fold does. -/
theorem runRounds_visit [LawfulMonad m] (r : Reduction m α β) (t : Tree α) (spare : Nat) :
    runRounds r (t.rounds + spare) [.visit t] [] = some <$> t.fold r :=
  runRounds_eq r [.visit t] [] (balanced_visit t) (Nat.le_add_right _ _)

end GlyphAlgebra
