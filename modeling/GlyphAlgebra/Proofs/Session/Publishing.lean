import GlyphAlgebra.Newest
import Mathlib.Data.List.Nodup

namespace GlyphAlgebra

namespace Newest

variable {α : Type}

/-- What a client asks for. The steps of several clients come one after another. -/
inductive Step (α : Type)
  | request
  | commit (id : Int) (result : α)
  deriving DecidableEq

inductive Answer
  | issued (id : Nat)
  | decided (accepted : Bool)
  deriving DecidableEq

def step (r : Newest α) : Step α → Answer × Newest α
  | .request => (.issued r.request.1, r.request.2)
  | .commit id result => (.decided (r.commit id result).1, (r.commit id result).2)

def after (r : Newest α) (steps : List (Step α)) : Newest α :=
  steps.foldl (fun r s => (r.step s).2) r

/-- The steps with their answers. -/
def history (r : Newest α) : List (Step α) → List (Step α × Answer)
  | [] => []
  | s :: steps => (s, (r.step s).1) :: (r.step s).2.history steps

def issuedIds (h : List (Step α × Answer)) : List Nat :=
  h.filterMap fun
    | (_, .issued id) => some id
    | _ => none

def acceptedIds (h : List (Step α × Answer)) : List Int :=
  h.filterMap fun
    | (.commit id _, .decided true) => some id
    | _ => none

def commits (steps : List (Step α)) : List (Int × α) :=
  steps.filterMap fun
    | .commit id result => some (id, result)
    | .request => none

def requests (steps : List (Step α)) : Nat :=
  (steps.filter fun
    | .request => true
    | .commit _ _ => false).length

/-- The greatest of a number and the ids of some commits. -/
def greatest (least : Int) (cs : List (Int × α)) : Int :=
  cs.foldl (fun m c => max m c.1) least

theorem commit_old {r : Newest α} {id : Int} (h : id ≤ r.committed) (result : α) :
    r.commit id result = (false, r) := if_pos h

theorem commit_new {r : Newest α} {id : Int} (h : r.committed < id) (result : α) :
    r.commit id result = (true, { r with committed := id, latest := some result }) :=
  if_neg (Int.not_le.mpr h)

theorem commit_accepted (r : Newest α) (id : Int) (result : α) :
    (r.commit id result).1 = decide (r.committed < id) := by
  rcases Int.lt_or_le r.committed id with h | h
  · rw [commit_new h, decide_eq_true h]
  · rw [commit_old h, decide_eq_false (Int.not_lt.mpr h)]

theorem commit_committed (r : Newest α) (id : Int) (result : α) :
    (r.commit id result).2.committed = max r.committed id := by
  rcases Int.lt_or_le r.committed id with h | h
  · rw [commit_new h, Int.max_eq_right (Int.le_of_lt h)]
  · rw [commit_old h, Int.max_eq_left h]

theorem commit_issued (r : Newest α) (id : Int) (result : α) :
    (r.commit id result).2.issued = r.issued := by
  rcases Int.lt_or_le r.committed id with h | h
  · rw [commit_new h]
  · rw [commit_old h]

theorem after_commit (r : Newest α) (id : Int) (result : α) (steps : List (Step α)) :
    r.after (.commit id result :: steps) = (r.commit id result).2.after steps := rfl

theorem after_committed (r : Newest α) (steps : List (Step α)) :
    (r.after steps).committed = greatest r.committed (commits steps) := by
  induction steps generalizing r with
  | nil => rfl
  | cons s steps ih =>
    cases s with
    | request => exact ih r.request.2
    | commit id result =>
      rw [after_commit, ih, commit_committed]
      rfl

theorem le_greatest (least : Int) (cs : List (Int × α)) : least ≤ greatest least cs := by
  induction cs generalizing least with
  | nil => exact Int.le_refl _
  | cons c cs ih => exact Int.le_trans (Int.le_max_left ..) (ih (max least c.1))

theorem le_after (r : Newest α) (steps : List (Step α)) :
    r.committed ≤ (r.after steps).committed := by
  rw [after_committed]
  exact le_greatest ..

theorem greatest_perm {least : Int} {cs ds : List (Int × α)} (h : cs.Perm ds) :
    greatest least cs = greatest least ds := by
  apply h.foldl_eq'
  intros
  omega

/-- The value of the first commit with an id. -/
def firstWith (id : Int) (cs : List (Int × α)) : Option α :=
  (cs.find? fun c => c.1 = id).map Prod.snd

/-- Once a newer id has come, the latest result is that of the first commit with the newest. -/
theorem after_latest (r : Newest α) (steps : List (Step α)) :
    (r.after steps).latest =
      if (r.after steps).committed = r.committed then r.latest
      else firstWith (r.after steps).committed (commits steps) := by
  induction steps generalizing r with
  | nil => exact (if_pos rfl).symm
  | cons s steps ih =>
    cases s with
    | request => exact ih r.request.2
    | commit id result =>
      have hfirst (newest : Int) : firstWith newest (commits (.commit id result :: steps)) =
          if id = newest then some result else firstWith newest (commits steps) := by
        have hcons : commits (.commit id result :: steps) = (id, result) :: commits steps := rfl
        rw [firstWith, hcons, List.find?_cons]
        by_cases hid : id = newest <;> simp [hid, firstWith]
      rw [after_commit, ih, hfirst]
      rcases Int.lt_or_le r.committed id with h | h
      · have hle := le_after (r.commit id result).2 steps
        rw [commit_new h] at hle ⊢
        dsimp only at hle ⊢
        rw [if_neg (show ¬_ = r.committed by omega)]
        simp only [eq_comm]
      · have hle := le_after r steps
        rw [commit_old h]
        dsimp only
        split
        next => rfl
        next hne => rw [if_neg (by omega)]

/-- The newest id is carried by a commit, unless no newer one has come. -/
theorem greatest_mem {least : Int} {cs : List (Int × α)} (h : least < greatest least cs) :
    ∃ c ∈ cs, c.1 = greatest least cs := by
  induction cs generalizing least with
  | nil => exact absurd h (Int.lt_irrefl _)
  | cons c cs ih =>
    have hcons : greatest least (c :: cs) = greatest (max least c.1) cs := rfl
    rw [hcons] at h ⊢
    by_cases hlt : max least c.1 < greatest (max least c.1) cs
    · obtain ⟨d, hd, heq⟩ := ih hlt
      exact ⟨d, List.mem_cons_of_mem _ hd, heq⟩
    · have hle := le_greatest (max least c.1) cs
      exact ⟨c, List.mem_cons_self .., by omega⟩

theorem exists_firstWith {c : Int × α} {cs : List (Int × α)} (hc : c ∈ cs) :
    ∃ d ∈ cs, d.1 = c.1 ∧ firstWith c.1 cs = some d.2 := by
  obtain ⟨d, hd⟩ : ∃ d, cs.find? (fun d => d.1 = c.1) = some d :=
    Option.isSome_iff_exists.mp (List.find?_isSome.mpr ⟨c, hc, by simp⟩)
  have hid : d.1 = c.1 := by simpa using List.find?_some hd
  exact ⟨d, List.mem_of_find?_eq_some hd, hid, by rw [firstWith, hd]; rfl⟩

theorem firstWith_of_mem {c : Int × α} {cs : List (Int × α)} (hn : (cs.map Prod.fst).Nodup)
    (hc : c ∈ cs) : firstWith c.1 cs = some c.2 := by
  obtain ⟨d, hd, hid, hfirst⟩ := exists_firstWith hc
  rw [hfirst, List.inj_on_of_nodup_map hn hd hc hid]

theorem issuedIds_history (r : Newest α) (steps : List (Step α)) :
    issuedIds (r.history steps) = List.range' (r.issued + 1) (requests steps) := by
  induction steps generalizing r with
  | nil => rfl
  | cons s steps ih =>
    cases s with
    | request =>
      have hissued : r.request.2.issued = r.issued + 1 := rfl
      have hids : issuedIds (r.history (.request :: steps)) =
          (r.issued + 1) :: issuedIds (r.request.2.history steps) := rfl
      have hcount : requests (.request :: steps) = requests steps + 1 := rfl
      rw [hids, ih, hissued, hcount, List.range'_succ]
    | commit id result =>
      have hids : issuedIds (r.history (.commit id result :: steps)) =
          issuedIds ((r.commit id result).2.history steps) := rfl
      have hcount : requests (.commit id result :: steps) = requests steps := rfl
      rw [hids, ih, commit_issued, hcount]

/-- An id is newer than all there is if it is newer than all that have been accepted. -/
theorem after_lt_iff (r : Newest α) (steps : List (Step α)) (id : Int) :
    (r.after steps).committed < id ↔
      r.committed < id ∧ ∀ a ∈ acceptedIds (r.history steps), a < id := by
  induction steps generalizing r with
  | nil => simp [after, history, acceptedIds]
  | cons s steps ih =>
    cases s with
    | request => exact ih r.request.2
    | commit id' result =>
      have hids : acceptedIds (r.history (.commit id' result :: steps)) =
          if (r.commit id' result).1 then id' :: acceptedIds ((r.commit id' result).2.history steps)
          else acceptedIds ((r.commit id' result).2.history steps) := by
        cases h : (r.commit id' result).1 <;> simp [history, acceptedIds, step, h]
      rw [after_commit, ih, hids]
      rcases Int.lt_or_le r.committed id' with h | h
      · simp only [commit_new h, ↓reduceIte, List.forall_mem_cons]
        grind
      · simp [commit_old h]

theorem firstWith_perm {least : Int} {cs ds : List (Int × α)} (h : cs.Perm ds)
    (hn : (ds.map Prod.fst).Nodup) (hgt : least < greatest least ds) :
    firstWith (greatest least ds) cs = firstWith (greatest least ds) ds := by
  obtain ⟨c, hc, hid⟩ := greatest_mem hgt
  have hn' : (cs.map Prod.fst).Nodup := (h.map Prod.fst).nodup_iff.mpr hn
  rw [← hid, firstWith_of_mem hn hc, firstWith_of_mem hn' (h.mem_iff.mpr hc)]

/-- What any steps make of an empty sink. The ids that it issues count up from one. It accepts a
commit if its id is positive and newer than all that were accepted, and else does not change. Its
id is the greatest of zero and all ids that were committed, and its result, if that is positive,
that of the first commit with this id. With ids all different the order of the commits does not
matter, nor does where ids are asked for. -/
theorem newest_of_history (steps : List (Step α)) :
    issuedIds (empty.history steps) = List.range' 1 (requests steps) ∧
    (∀ id result, ((empty.after steps).commit id result).1 = true ↔
      0 < id ∧ ∀ a ∈ acceptedIds (empty.history steps), a < id) ∧
    (∀ id result, ((empty.after steps).commit id result).1 = false →
      ((empty.after steps).commit id result).2 = empty.after steps) ∧
    (empty.after steps).committed = greatest 0 (commits steps) ∧
    (∀ more, (empty.after steps).committed ≤ (empty.after (steps ++ more)).committed) ∧
    ((empty.after steps).committed = 0 ∧ (empty.after steps).latest = none ∨
      0 < (empty.after steps).committed ∧
        ∃ result, firstWith (empty.after steps).committed (commits steps) = some result ∧
          (empty.after steps).latest = some result) ∧
    ∀ others, (commits others).Perm (commits steps) → ((commits steps).map Prod.fst).Nodup →
      (empty.after others).committed = (empty.after steps).committed ∧
        (empty.after others).latest = (empty.after steps).latest := by
  have hzero : (empty : Newest α).committed = 0 := rfl
  have hcommitted (steps : List (Step α)) :
      (empty.after steps).committed = greatest 0 (commits steps) := after_committed empty steps
  refine ⟨issuedIds_history empty steps, fun id result => ?_, fun id result h => ?_,
    hcommitted steps, fun more => ?_, ?_, fun others hp hn => ?_⟩
  · rw [commit_accepted, decide_eq_true_iff, after_lt_iff, hzero]
  · rw [commit_accepted, decide_eq_false_iff_not, Int.not_lt] at h
    rw [commit_old h]
  · have hafter : empty.after (steps ++ more) = (empty.after steps).after more :=
      List.foldl_append ..
    rw [hafter]
    exact le_after ..
  · have hlatest := after_latest empty steps
    rw [hzero] at hlatest
    have hle := le_greatest 0 (commits steps)
    rw [hcommitted] at hlatest ⊢
    by_cases h : greatest 0 (commits steps) = 0
    · rw [if_pos h] at hlatest
      exact .inl ⟨h, hlatest⟩
    · have hpos : 0 < greatest 0 (commits steps) := by omega
      obtain ⟨c, hc, hid⟩ := greatest_mem hpos
      obtain ⟨d, _, _, hfirst⟩ := exists_firstWith hc
      rw [if_neg h, ← hid, hfirst] at hlatest
      exact .inr ⟨hpos, d.2, hid ▸ hfirst, hlatest⟩
  · have hsame : (empty.after others).committed = (empty.after steps).committed := by
      rw [hcommitted, hcommitted, greatest_perm hp]
    refine ⟨hsame, ?_⟩
    rw [after_latest, after_latest, hsame]
    split
    next => rfl
    next h =>
      have hle := le_greatest 0 (commits steps)
      rw [hcommitted, hzero] at h
      rw [hcommitted]
      exact firstWith_perm hp hn (by omega)

def shuffledSteps : List (Step String) :=
  [.commit 2 "b", .request, .commit (-1) "z", .commit 3 "c", .request, .commit 1 "a"]

theorem newest_of_history_shuffled :
    ((commits shuffledSteps).map Prod.fst).Nodup ∧
    (empty.after [.request, .commit 3 "c", .commit 1 "a", .commit 2 "b", .commit (-1) "z"]).latest =
      (empty.after shuffledSteps).latest ∧
    (empty.after shuffledSteps).latest = some "c" := by
  have hn : ((commits shuffledSteps).map Prod.fst).Nodup := by decide
  obtain ⟨_, _, _, _, _, _, hsame⟩ := newest_of_history shuffledSteps
  exact ⟨hn, (hsame _ (by decide) hn).2, rfl⟩

/-- The greatest id is zero when just this has been committed, and still there is no result. -/
theorem newest_of_zero :
    ¬∀ steps : List (Step String), (empty.after steps).latest =
      firstWith (greatest 0 (commits steps)) (commits steps) := by
  intro h
  have hzero := h [.commit 0 "a"]
  revert hzero
  decide

end Newest

end GlyphAlgebra
