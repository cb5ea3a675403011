import GlyphAlgebra.Proofs.Text.Border

namespace GlyphAlgebra

/-- No border divides the characters from each other or from code points of the given classes,
the nearest of which comes first. -/
def Unbroken : List BreakClass → List Char → Prop
  | _, [] => True
  | before, c :: cs => Attaches before (breakClass c) ∧ Unbroken (breakClass c :: before) cs

/-- The classes that lie behind the end of some characters, the nearest first. -/
def classesBack (cs : List Char) : List BreakClass :=
  (cs.map breakClass).reverse

/-- The first character and the tail form one cluster of a text that goes on with the rest. -/
structure Cluster (c : Char) (tail rest : List Char) : Prop where
  unbroken : Unbroken [breakClass c] tail
  ends : ∀ d after, rest = d :: after → ¬Attaches (classesBack (c :: tail)) (breakClass d)

theorem classesBack_cons_append (c : Char) (cs : List Char) (before : List BreakClass) :
    classesBack (c :: cs) ++ before = classesBack cs ++ breakClass c :: before := by
  simp [classesBack]

theorem clusterTail_unbroken (b : BreakClass) (before : List BreakClass) (cs : List Char) :
    Unbroken (b :: before) (clusterTail (endOf b before) cs).1 := by
  induction cs generalizing b before with
  | nil => trivial
  | cons c cs ih =>
    simp only [clusterTail]
    split
    next h => exact ⟨(endOf_joins b (breakClass c) before).mp h, ih (breakClass c) (b :: before)⟩
    next => trivial

theorem clusterTail_ends (b : BreakClass) (before : List BreakClass) {cs after : List Char}
    {d : Char} (h : (clusterTail (endOf b before) cs).2 = d :: after) :
    ¬Attaches (classesBack (clusterTail (endOf b before) cs).1 ++ b :: before) (breakClass d) := by
  induction cs generalizing b before with
  | nil => simp [clusterTail] at h
  | cons c cs ih =>
    simp only [clusterTail] at h ⊢
    split at h
    next hj =>
      rw [if_pos hj]
      simpa only [classesBack_cons_append, endOf_cons] using ih (breakClass c) (b :: before) h
    next hj =>
      rw [if_neg hj]
      have hd : c = d := (List.cons.inj h).1
      subst d
      exact fun ha => hj ((endOf_joins b (breakClass c) before).mpr ha)

theorem clusterTail_eq (b : BreakClass) (before : List BreakClass) {tail rest : List Char}
    (ht : Unbroken (b :: before) tail)
    (hr : ∀ d after, rest = d :: after →
      ¬Attaches (classesBack tail ++ b :: before) (breakClass d)) :
    clusterTail (endOf b before) (tail ++ rest) = (tail, rest) := by
  induction tail generalizing b before with
  | nil =>
    cases rest with
    | nil => rfl
    | cons d after =>
      have hd : ¬(endOf b before).joins (breakClass d) = true := fun hj =>
        hr d after rfl ((endOf_joins b (breakClass d) before).mp hj)
      simp [clusterTail, hd]
  | cons c cs ih =>
    obtain ⟨hc, hcs⟩ := ht
    have hj := (endOf_joins b (breakClass c) before).mpr hc
    have hi := ih (breakClass c) (b :: before) hcs fun d after hd => by
      simpa only [classesBack_cons_append] using hr d after hd
    rw [endOf_cons] at hi
    simp [clusterTail, hj, hi]

/-- A text is divided behind its first cluster, and nowhere else. -/
theorem splitCluster_eq_iff {c : Char} {cs tail rest : List Char} :
    splitCluster c cs = (c :: tail, rest) ↔ cs = tail ++ rest ∧ Cluster c tail rest := by
  constructor
  · intro h
    obtain ⟨htail, hrest⟩ : (clusterTail (endOf (breakClass c) []) cs).1 = tail ∧
        (clusterTail (endOf (breakClass c) []) cs).2 = rest := by
      simpa [splitCluster, endOf] using h
    have happ := clusterTail_append (endOf (breakClass c) []) cs
    rw [htail, hrest] at happ
    refine ⟨happ.symm, ?_, ?_⟩
    · exact htail ▸ clusterTail_unbroken (breakClass c) [] cs
    · intro d after hd
      have he := clusterTail_ends (breakClass c) [] (hrest.trans hd)
      rw [htail] at he
      simpa [classesBack] using he
  · rintro ⟨rfl, hu, he⟩
    have ht : clusterTail (endOf (breakClass c) []) (tail ++ rest) = (tail, rest) :=
      clusterTail_eq (breakClass c) [] hu fun d after hd => by
        simpa [classesBack] using he d after hd
    have hs : clusterTail (.start (breakClass c)) (tail ++ rest) = (tail, rest) := ht
    simp [splitCluster, hs]

theorem splitCluster_cluster (c : Char) (cs : List Char) :
    ∃ tail rest, splitCluster c cs = (c :: tail, rest) ∧ cs = tail ++ rest ∧ Cluster c tail rest := by
  have h : splitCluster c cs = (c :: (clusterTail (.start (breakClass c)) cs).1,
      (clusterTail (.start (breakClass c)) cs).2) := rfl
  exact ⟨_, _, h, splitCluster_eq_iff.mp h⟩

end GlyphAlgebra
