import GlyphAlgebra.Proofs.Tree.Loop

namespace GlyphAlgebra

theorem run_bind {ε σ α β : Type} (x : ExceptT ε (StateM σ) α) (f : α → ExceptT ε (StateM σ) β)
    (s : σ) :
    (x >>= f).run s =
      match x.run s with
      | (.ok a, s') => (f a).run s'
      | (.error e, s') => (.error e, s') := by
  have hb : (x >>= f).run s = (StateT.bind x (ExceptT.bindCont f) : σ → _) s := rfl
  rw [hb, StateT.bind]
  have hx : x.run s = x s := rfl
  rw [hx]
  rcases x s with ⟨_ | _, s'⟩ <;> rfl

variable {σ ε β : Type}

/-- A call that a fold makes: what is made of a node, given what was made of the nodes below it. -/
inductive Call (β : Type)
  | literal (text : String)
  | paren (inner : Tree String) (value : β)
  | binary (op : Operator) (left right : Tree String) (first second : β)

def Call.node : Call β → Tree String
  | literal text => .literal text
  | paren inner _ => .paren inner
  | binary op left right _ _ => .binary op left right

inductive FoldError (ε : Type)
  | raised (e : ε)
  | stray (e : NotAnExpression)

/-- What answers the calls of a fold. It may change a state, and it may fail. -/
abbrev Responder (σ ε β : Type) := Call β → σ → Except ε β × σ

namespace Responder

def answer (f : Responder σ ε β) (call : Call β) : ExceptT (FoldError ε) (StateM σ) β :=
  fun s => ((f call s).1.mapError .raised, (f call s).2)

def reduction (f : Responder σ ε β) : Reduction (ExceptT (FoldError ε) (StateM σ)) String β where
  literal text := f.answer (.literal text)
  paren inner value := f.answer (.paren inner value)
  binary op left right first second := f.answer (.binary op left right first second)
  stray text := throw (.stray ⟨text⟩)

/-- Answers in the same way and writes down the calls. -/
def recorded (f : Responder σ ε β) : Responder (σ × List (Call β)) ε β :=
  fun call s => ((f call s.1).1, ((f call s.1).2, s.2 ++ [call]))

end Responder

/-- The nodes of a tree, left before right and operands before operators. -/
def Tree.postorder {α : Type} : Tree α → List (Tree α)
  | literal text => [literal text]
  | paren inner => inner.postorder ++ [paren inner]
  | binary op left right => left.postorder ++ right.postorder ++ [binary op left right]
  | stray value => [stray value]

/-- The calls on some nodes. They are made in order for all nodes, or until one fails, or until a
node is no expression. -/
def Covers (f : Responder σ ε β) (nodes : List (Tree String)) (calls : List (Call β))
    (outcome : Except (FoldError ε) β × σ) : Prop :=
  match outcome with
  | (.ok _, _) => calls.map Call.node = nodes
  | (.error (.stray e), _) => ∃ rest, calls.map Call.node ++ .stray e.text :: rest = nodes
  | (.error (.raised e), s) =>
    ∃ before call s' rest, calls = before ++ [call] ∧ f call s' = (.error e, s) ∧
      calls.map Call.node ++ rest = nodes

variable {f : Responder σ ε β} {nodes nodes' : List (Tree String)} {calls calls' : List (Call β)}

theorem Covers.append {value : β} {s : σ} {outcome : Except (FoldError ε) β × σ}
    (h : Covers f nodes calls (.ok value, s)) (h' : Covers f nodes' calls' outcome) :
    Covers f (nodes ++ nodes') (calls ++ calls') outcome := by
  have hnodes : calls.map Call.node = nodes := h
  obtain ⟨result, s'⟩ := outcome
  cases result with
  | ok value' =>
    have hnodes' : calls'.map Call.node = nodes' := h'
    show (calls ++ calls').map Call.node = nodes ++ nodes'
    rw [List.map_append, hnodes, hnodes']
  | error err =>
    cases err with
    | stray e =>
      obtain ⟨rest, hrest⟩ := h'
      exact ⟨rest, by rw [List.map_append, hnodes, List.append_assoc, hrest]⟩
    | raised e =>
      obtain ⟨before, call, s₁, rest, rfl, hcall, hrest⟩ := h'
      refine ⟨calls ++ before, call, s₁, rest, by rw [List.append_assoc], hcall, ?_⟩
      rw [List.map_append, hnodes, List.append_assoc, hrest]

/-- After a failure the nodes that are left do not matter. -/
theorem Covers.stop {err : FoldError ε} {s : σ} (h : Covers f nodes calls (.error err, s)) :
    Covers f (nodes ++ nodes') calls (.error err, s) := by
  cases err with
  | stray e =>
    obtain ⟨rest, rfl⟩ := h
    exact ⟨rest ++ nodes', by simp⟩
  | raised e =>
    obtain ⟨before, call, s₁, rest, rfl, hcall, rfl⟩ := h
    exact ⟨before, call, s₁, rest ++ nodes', rfl, hcall, by simp⟩

/-- The second computation is the first one with its calls written down, and these cover some
nodes. -/
def Records (f : Responder σ ε β) (nodes : List (Tree String))
    (x : ExceptT (FoldError ε) (StateM σ) β)
    (y : ExceptT (FoldError ε) (StateM (σ × List (Call β))) β) : Prop :=
  ∀ s calls, ∃ new, y.run (s, calls) = ((x.run s).1, (x.run s).2, calls ++ new) ∧
    Covers f nodes new (x.run s)

theorem records_answer (f : Responder σ ε β) (call : Call β) :
    Records f [call.node] (f.answer call) (f.recorded.answer call) := by
  intro s calls
  refine ⟨[call], rfl, ?_⟩
  have hrun : (f.answer call).run s = ((f call s).1.mapError .raised, (f call s).2) := rfl
  rw [hrun]
  rcases hcall : f call s with ⟨e | value, s'⟩
  · exact ⟨[], call, s, [], rfl, hcall, rfl⟩
  · rfl

theorem Records.bind {x : ExceptT (FoldError ε) (StateM σ) β}
    {y : ExceptT (FoldError ε) (StateM (σ × List (Call β))) β}
    {g : β → ExceptT (FoldError ε) (StateM σ) β}
    {k : β → ExceptT (FoldError ε) (StateM (σ × List (Call β))) β}
    (h : Records f nodes x y) (hg : ∀ value, Records f nodes' (g value) (k value)) :
    Records f (nodes ++ nodes') (x >>= g) (y >>= k) := by
  intro s calls
  obtain ⟨new, hy, hcovers⟩ := h s calls
  rw [run_bind, run_bind, hy]
  rcases hx : x.run s with ⟨err | value, s'⟩
  · rw [hx] at hcovers
    exact ⟨new, rfl, hcovers.stop⟩
  · rw [hx] at hcovers
    obtain ⟨more, hk, hcovers'⟩ := hg value s' (calls ++ new)
    exact ⟨new ++ more, by rw [← List.append_assoc]; exact hk, hcovers.append hcovers'⟩

/-- The recursion makes its calls in postorder. -/
theorem reduce_records (f : Responder σ ε β) (t : Tree String) :
    Records f t.postorder (t.reduce f.reduction) (t.reduce f.recorded.reduction) := by
  induction t with
  | literal text => exact records_answer f (.literal text)
  | paren inner ih => exact ih.bind fun value => records_answer f (.paren inner value)
  | binary op left right ihl ihr =>
    rw [Tree.postorder, List.append_assoc]
    refine ihl.bind fun first => ihr.bind fun second => ?_
    exact records_answer f (.binary op left right first second)
  | stray text =>
    intro s calls
    exact ⟨[], by rw [List.append_nil]; rfl, [], rfl⟩

/-- The fold makes the calls of the recursion, on the same arguments and in the same order, and
comes to the same end. They are the calls on the nodes in postorder, up to the first that fails or
the first node that is no expression. The loop needs no more rounds than are counted, never lacks a
value, and leaves one. -/
theorem fold_calls_recursively (f : Responder σ ε β) (t : Tree String) (s : σ) :
    (∀ spare, runRounds f.recorded.reduction (t.rounds + spare) [.visit t] [] =
      some <$> t.fold f.recorded.reduction) ∧
    (t.fold f.recorded.reduction).run (s, []) = (t.reduce f.recorded.reduction).run (s, []) ∧
    (t.fold f.reduction).run s = (t.reduce f.reduction).run s ∧
    ∃ calls, (t.fold f.recorded.reduction).run (s, []) =
        (((t.fold f.reduction).run s).1, ((t.fold f.reduction).run s).2, calls) ∧
      Covers f t.postorder calls ((t.fold f.reduction).run s) := by
  refine ⟨runRounds_visit f.recorded.reduction t, ?_, ?_, ?_⟩
  · rw [Tree.fold_eq_reduce]
  · rw [Tree.fold_eq_reduce]
  · rw [Tree.fold_eq_reduce, Tree.fold_eq_reduce]
    exact reduce_records f t s []

end GlyphAlgebra
