import GlyphAlgebra.Proofs.Text.Literal
import GlyphAlgebra.Proofs.Text.Offset

namespace GlyphAlgebra

theorem covers_mem {ranges : CodeRanges} {n : Nat} (h : ranges.covers n = true) :
    ∃ r ∈ ranges, r.1 ≤ n ∧ n ≤ r.2 := by
  induction ranges with
  | nil => cases h
  | cons r ranges ih =>
    unfold CodeRanges.covers at h
    split at h
    next => cases h
    next hlow =>
      rcases Bool.or_eq_true_iff.mp h with hhigh | hrest
      · exact ⟨r, List.mem_cons_self .., Nat.le_of_not_lt hlow, of_decide_eq_true hhigh⟩
      · obtain ⟨r', hr', hn⟩ := ih hrest
        exact ⟨r', List.mem_cons_of_mem r hr', hn⟩

/-- White space draws in nothing, or nothing draws it in but a return its newline. -/
theorem spacing_class {c : Char} (h : isSpacing c = true) :
    breakClass c = .other ∨ (breakClass c).standsAlone = true := by
  have hall : ∀ r ∈ spacingRanges, ∀ k < r.2 + 1 - r.1, breakClass (Char.ofNat (r.1 + k)) = .other ∨
      (breakClass (Char.ofNat (r.1 + k))).standsAlone = true := by
    decide +kernel
  obtain ⟨r, hr, hlow, hhigh⟩ := covers_mem h
  have hc := hall r hr (c.toNat - r.1) (by omega)
  rwa [Nat.add_sub_of_le hlow, Char.ofNat_toNat] at hc

/-- Of the characters that stand alone only a newline belongs to a cluster, behind its return. -/
theorem Attaches.newline_of_standsAlone {before : List BreakClass} {c : BreakClass}
    (h : Attaches before c) (hc : c.standsAlone = true) : c = .lf ∧ .cr ∈ before := by
  cases h with
  | newline before => exact ⟨rfl, List.mem_cons_self ..⟩
  | mark _ _ hmark =>
    simp only [List.mem_cons, List.not_mem_nil, or_false] at hmark
    rcases hmark with rfl | rfl | rfl <;> cases hc
  | prepended _ hb => rw [hb] at hc; cases hc
  | leading _ hb =>
    simp only [List.mem_cons, List.not_mem_nil, or_false] at hb
    rcases hb with rfl | rfl | rfl | rfl <;> cases hc
  | vowel _ _ hb =>
    simp only [List.mem_cons, List.not_mem_nil, or_false] at hb
    rcases hb with rfl | rfl <;> cases hc
  | trailing => cases hc
  | picture => cases hc
  | flag => cases hc

theorem breakClass_return {c : Char} (h : breakClass c = .cr) : c = '\r' := by
  have hcase {p : Prop} [Decidable p] {a b : BreakClass} (ha : a ≠ .cr) (hb : b ≠ .cr) :
      (if p then a else b) ≠ .cr := by
    split <;> assumption
  refine Decidable.byContradiction fun hc => ?_
  have hn : ¬c.toNat = 0xd := fun hn => hc (by rw [← Char.ofNat_toNat c, hn])
  unfold breakClass syllableClass at h
  rw [if_neg hn] at h
  refine absurd h ?_
  repeat' apply hcase
  all_goals decide

theorem unbroken_no_return {before : List BreakClass} {cs : List Char} (h : Unbroken before cs) :
    ∀ c ∈ cs, breakClass c ≠ .cr := by
  induction cs generalizing before with
  | nil => simp
  | cons c cs ih =>
    obtain ⟨hc, hcs⟩ := h
    intro d hd
    rcases List.mem_cons.mp hd with rfl | hd
    · intro hreturn
      rw [hreturn] at hc
      obtain ⟨hlf, _⟩ := hc.newline_of_standsAlone rfl
      cases hlf
    · exact ih hcs d hd

theorem literal_no_return {text : String} (hl : IsLiteral text) :
    BreakClass.cr ∉ classesBack text.toList := by
  obtain ⟨c, tail, htext, hs, _, hu⟩ := hl
  have hc : breakClass c ≠ .cr := by
    intro hreturn
    rw [breakClass_return hreturn] at hs
    exact absurd hs (by decide)
  intro hmem
  rw [classesBack, List.mem_reverse, htext] at hmem
  obtain ⟨d, hd, hreturn⟩ := List.mem_map.mp hmem
  rcases List.mem_cons.mp hd with rfl | hd
  · exact hc hreturn
  · exact unbroken_no_return hu d hd hreturn

/-- White space stays out of the cluster of a literal that does not end in a prepended mark. -/
theorem literal_apart_spacing {text : String} (hl : IsLiteral text)
    (hp : endsInPrepend text = false) {c : Char} (hc : isSpacing c = true) :
    ¬Attaches (classesBack text.toList) (breakClass c) := by
  intro ha
  rcases spacing_class hc with hother | halone
  · have hapart : Apart text [c] := (apart_iff hl hother).mpr hp
    exact hapart c [] rfl ha
  · have hreturn := literal_no_return hl
    exact hreturn (ha.newline_of_standsAlone halone).2

theorem nextToken_front (c : Char) (cs : List Char) :
    ∃ front, (nextToken c cs).1.text.toList = c :: front ∧ cs = front ++ (nextToken c cs).2 := by
  have hlength := nextToken_length c cs
  have hrest := nextToken_rest_length c cs
  obtain ⟨hnil, _⟩ | hfront := List.append_eq_cons_iff.mp (nextToken_append c cs)
  · rw [← String.length_toList, hnil, List.length_nil] at hlength
    omega
  · exact hfront

/-- The second text starts as the first one does, or with white space. -/
def StartsApart (rest rest' : List Char) : Prop :=
  ∀ d after, rest' = d :: after → isSpacing d = true ∨ rest.head? = some d

/-- What follows a token does not matter as long as the token stays apart from it. -/
theorem nextToken_apart {c : Char} {cs front rest' : List Char} (hs : isSpacing c = false)
    (hfront : (nextToken c cs).1.text.toList = c :: front)
    (hprepend : ∀ text, (nextToken c cs).1 = .literal text → endsInPrepend text = false)
    (hrest : StartsApart (nextToken c cs).2 rest') :
    nextToken c (front ++ rest') = ((nextToken c cs).1, rest') := by
  cases hc : symbolToken? c with
  | none =>
    obtain ⟨tail, rest, _, rfl, hl⟩ := splitCluster_cluster c cs
    rw [nextToken_literal hc hl] at hfront hprepend hrest ⊢
    have hliteral : IsLiteral (String.ofList (c :: tail)) :=
      ⟨c, tail, String.toList_ofList, hs, hc, hl.unbroken⟩
    have htail : c :: tail = c :: front := by rw [← hfront]; exact String.toList_ofList.symm
    cases htail
    apply nextToken_literal hc
    refine ⟨hl.unbroken, fun d after hd => ?_⟩
    rcases hrest d after hd with hspacing | hhead
    · have hapart := literal_apart_spacing hliteral (hprepend _ rfl) hspacing
      rwa [String.toList_ofList] at hapart
    · obtain ⟨after', hafter⟩ := List.head?_eq_some_iff.mp hhead
      exact hl.ends d after' hafter
  | some t =>
    by_cases hb : c = '|' ∧ cs.head? = some '|'
    · obtain ⟨rfl, hhead⟩ := hb
      obtain ⟨rest, rfl⟩ := List.head?_eq_some_iff.mp hhead
      have hbars : "||".toList = '|' :: front := hfront
      have hfront : front = ['|'] := (List.cons.inj hbars).2.symm
      rw [hfront]
      rfl
    · have hb' : c = '|' → cs.head? ≠ some '|' := fun h1 h2 => hb ⟨h1, h2⟩
      rw [nextToken_symbol hc hb'] at hfront hrest ⊢
      have hnil : [c] = c :: front := (symbolToken?_text hc).symm.trans hfront
      cases hnil
      apply nextToken_symbol hc
      intro hbar hhead
      obtain ⟨after, hafter⟩ := List.head?_eq_some_iff.mp hhead
      rcases hrest '|' after hafter with hspacing | hhead
      · exact absurd hspacing (by decide)
      · exact hb' hbar hhead

def PlacedToken.move (f : Nat → Nat) (t : PlacedToken) : PlacedToken :=
  ⟨t.token, f t.offset⟩

theorem scanFrom_spacing {run : List Char} (hrun : ∀ c ∈ run, isSpacing c = true) (offset : Nat)
    (cs : List Char) : scanFrom offset (run ++ cs) = scanFrom (offset + run.length) cs := by
  induction run generalizing offset with
  | nil => rfl
  | cons c run ih =>
    have hc : isSpacing c = true := hrun c (List.mem_cons_self ..)
    have hrest := ih (fun d hd => hrun d (List.mem_cons_of_mem c hd)) (offset + 1)
    rw [List.cons_append, scanFrom, if_pos hc, hrest, List.length_cons]
    congr 1
    omega

/-- White space to be put into a text, by the number of characters before it. -/
structure Spacing where
  runs : Nat → List Char
  blank : ∀ place, ∀ c ∈ runs place, isSpacing c = true

namespace Spacing

/-- The characters behind a place, each with its run in front, and the last run. -/
def insertFrom (s : Spacing) : Nat → List Char → List Char
  | place, [] => s.runs place
  | place, c :: cs => s.runs place ++ c :: s.insertFrom (place + 1) cs

def widen (s : Spacing) (text : String) : String :=
  String.ofList (s.insertFrom 0 text.toList)

/-- Where a place comes to lie. -/
def moved (s : Spacing) : Nat → Nat
  | 0 => (s.runs 0).length
  | place + 1 => s.moved place + 1 + (s.runs (place + 1)).length

/-- Nothing is put inside a token. -/
def Spares (s : Spacing) (tokens : List PlacedToken) : Prop :=
  ∀ t ∈ tokens, ∀ place, t.offset < place → place < t.offset + t.token.text.length →
    s.runs place = []

theorem moved_add (s : Spacing) {place n : Nat} (hn : 0 < n)
    (h : ∀ k, place < k → k < place + n → s.runs k = []) :
    s.moved place + n + (s.runs (place + n)).length = s.moved (place + n) := by
  induction n with
  | zero => exact absurd hn (Nat.lt_irrefl 0)
  | succ n ih =>
    have hlast : s.moved (place + (n + 1)) =
        s.moved (place + n) + 1 + (s.runs (place + (n + 1))).length := rfl
    rcases Nat.eq_zero_or_pos n with rfl | hpos
    · exact hlast.symm
    · have hrest := ih hpos fun k hk hlt => h k hk (by omega)
      have hnone : s.runs (place + n) = [] := h _ (by omega) (by omega)
      rw [hnone, List.length_nil] at hrest
      omega

theorem insertFrom_spared (s : Spacing) {place : Nat} {front : List Char} (back : List Char)
    (h : ∀ k, place ≤ k → k < place + front.length → s.runs k = []) :
    s.insertFrom place (front ++ back) = front ++ s.insertFrom (place + front.length) back := by
  induction front generalizing place with
  | nil => rfl
  | cons c front ih =>
    have hnone : s.runs place = [] := h place (Nat.le_refl _) (by simp)
    have hrest := @ih (place + 1) fun k hk hlt => h k (by omega) (by
      rw [List.length_cons]
      omega)
    have hplace : place + 1 + front.length = place + (c :: front).length := by
      rw [List.length_cons]
      omega
    rw [List.cons_append, insertFrom, hnone, hrest, hplace]
    rfl

theorem startsApart (s : Spacing) (place : Nat) (cs : List Char) :
    StartsApart cs (s.insertFrom place cs) := by
  intro d after hd
  have hrun : ∀ c ∈ s.runs place, isSpacing c = true := s.blank place
  cases cs with
  | nil =>
    rw [insertFrom] at hd
    exact .inl (hrun d (by rw [hd]; exact List.mem_cons_self ..))
  | cons c cs =>
    rw [insertFrom] at hd
    cases hr : s.runs place with
    | nil =>
      rw [hr] at hd
      exact .inr (congrArg some (List.cons.inj hd).1)
    | cons c' run =>
      rw [hr] at hd hrun
      obtain ⟨rfl, _⟩ := List.cons.inj hd
      exact .inl (hrun _ (List.mem_cons_self ..))

/-- White space put between tokens moves them and does nothing else. -/
theorem scanFrom_insertFrom (s : Spacing) {place offset : Nat} {cs : List Char}
    (hoffset : offset + (s.runs place).length = s.moved place)
    (hspares : s.Spares (scanFrom place cs))
    (hprepend : ∀ t ∈ scanFrom place cs, ∀ text, t.token = .literal text →
      endsInPrepend text = false) :
    scanFrom offset (s.insertFrom place cs) = (scanFrom place cs).map (.move s.moved) := by
  fun_induction scanFrom place cs generalizing offset with
  | case1 place =>
    have hrun := scanFrom_spacing (s.blank place) offset []
    rw [List.append_nil] at hrun
    rw [insertFrom, hrun, scanFrom]
    rfl
  | case2 place c cs hc ih =>
    rw [insertFrom, scanFrom_spacing (s.blank place), hoffset, scanFrom, if_pos hc]
    exact ih rfl hspares hprepend
  | case3 place c cs hspacing hlt ih =>
    have hs : isSpacing c = false := Bool.eq_false_iff.mpr hspacing
    obtain ⟨front, hfront, hcs⟩ := nextToken_front c cs
    have htext : (nextToken c cs).1.text.length = front.length + 1 := by
      rw [← String.length_toList, hfront, List.length_cons]
    have hinside : ∀ k, place < k → k < place + (front.length + 1) → s.runs k = [] := by
      intro k hk hlt
      exact hspares _ (List.mem_cons_self ..) k hk (by rw [htext]; exact hlt)
    have hinsert := @insertFrom_spared s (place + 1) front (nextToken c cs).2
      fun k hk hlt => hinside k (by omega) (by omega)
    rw [← hcs, Nat.add_right_comm, Nat.add_assoc, ← htext] at hinsert
    have hnext := nextToken_apart hs hfront (fun text => hprepend _ (List.mem_cons_self ..) text)
      (s.startsApart (place + (nextToken c cs).1.text.length) (nextToken c cs).2)
    have hmoved := s.moved_add (n := front.length + 1) (Nat.succ_pos _) hinside
    rw [← htext] at hmoved
    have hrest := ih hmoved (fun t ht => hspares t (List.mem_cons_of_mem _ ht))
      fun t ht => hprepend t (List.mem_cons_of_mem _ ht)
    rw [insertFrom, scanFrom_spacing (s.blank place), hoffset, hinsert, scanFrom,
      if_neg hspacing, hnext, List.map_cons, hrest]
    rfl

theorem scan_widen (s : Spacing) {text : String} (hspares : s.Spares (scan text))
    (hprepend : ∀ t ∈ scan text, ∀ l, t.token = .literal l → endsInPrepend l = false) :
    scan (s.widen text) = (scan text).map (.move s.moved) := by
  rw [scan, widen, String.toList_ofList]
  exact s.scanFrom_insertFrom (Nat.zero_add _) hspares hprepend

end Spacing

end GlyphAlgebra
