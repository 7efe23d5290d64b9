import ScanAudit.Visitor

/-!
# A tree of visitors is the row of its leaves

A callback goes along the leaves of a tree from left to right until one of them does not accept
it. So what a tree does is settled by the row of its leaves, and the tees only wrap the
fault. For a whole run, in which callbacks keep coming after a fault, this means two things.

* Each leaf ends in the state in which it would end alone, were it given the cues that all
  leaves to its left accept and no others (`ScanAudit.Visitor.heard`).
* Trees with the same leaves in the same order do the same to each leaf, however their tees
  are nested.

The work is done for one cue, by induction on the tree: `ScanAudit.Visitor.leaves_perform`
tells what becomes of the leaves, and `ScanAudit.Visitor.perform_eq_iff_of_ne` tells the answer,
which is that of the leaf where the cue ends, be it a refusal or a stop. What is said about runs
follows by induction on the cues and never looks into the tree.
-/

namespace ScanAudit

/-! ### One leaf -/

namespace Leaf

/-- **The leaf accepts the cue.** -/
def Accepts (l : Leaf) (q : Cue) : Prop :=
  (l.perform q).2 = .accepted

instance (l : Leaf) (q : Cue) : Decidable (l.Accepts q) :=
  inferInstanceAs (Decidable (_ = _))

end Leaf

/-! ### A row of leaves -/

/-- **The cue reaches the leaf at a position of a row**: all leaves to its left accept it. -/
def Reaches (row : List Leaf) (i : Nat) (q : Cue) : Prop :=
  ∀ left ∈ row.take i, left.Accepts q

instance (row : List Leaf) (i : Nat) (q : Cue) : Decidable (Reaches row i q) :=
  inferInstanceAs (Decidable (∀ _ ∈ _, _))

/-- **A cue along a row of leaves**: the leaves it reaches take it, the others stay as they
are. -/
def passAlong (q : Cue) (row : List Leaf) : List Leaf :=
  row.mapIdx fun i l => if Reaches row i q then (l.perform q).1 else l

section Row

variable {row : List Leaf} {q : Cue}

theorem reaches_append_left {i : Nat} (h : i < row.length) (more : List Leaf) :
    Reaches (row ++ more) i q ↔ Reaches row i q := by
  rw [Reaches, List.take_append_of_le_length (Nat.le_of_lt h), Reaches]

theorem reaches_append_right (i : Nat) (more : List Leaf) :
    Reaches (row ++ more) (i + row.length) q ↔
      (∀ l ∈ row, l.Accepts q) ∧ Reaches more i q := by
  rw [Reaches, Nat.add_comm, List.take_length_add_append, List.forall_mem_append, Reaches]

theorem Reaches.accepts {i j : Nat} {l : Leaf} (h : Reaches row i q) (hlt : j < i)
    (hl : row[j]? = some l) : l.Accepts q := by
  have hget : (row.take i)[j]? = some l := by rw [List.getElem?_take_of_lt hlt, hl]
  exact h l (List.mem_of_getElem? hget)

/-- **A cue stops at one leaf only**: it is refused at most once by a leaf it reaches. -/
theorem reaches_unique {i j : Nat} {l m : Leaf} (hl : row[i]? = some l) (hm : row[j]? = some m)
    (hi : Reaches row i q) (hj : Reaches row j q) (hlq : ¬l.Accepts q) (hmq : ¬m.Accepts q) :
    i = j := by
  rcases Nat.lt_trichotomy i j with hlt | heq | hgt
  · exact absurd (hj.accepts hlt hl) hlq
  · exact heq
  · exact absurd (hi.accepts hgt hm) hmq

/-- **A cue goes on into a second row** when the first accepts it as a whole. -/
theorem passAlong_append (q : Cue) (row more : List Leaf) :
    passAlong q (row ++ more) =
      passAlong q row ++ if ∀ l ∈ row, l.Accepts q then passAlong q more else more := by
  rw [passAlong, List.mapIdx_append]
  congr 1
  · refine List.mapIdx_eq_mapIdx_iff.mpr fun i hi => ?_
    simp only [reaches_append_left hi]
  · simp only [reaches_append_right]
    by_cases hall : ∀ l ∈ row, l.Accepts q
    · simp only [if_pos hall, and_iff_right hall, passAlong]
    · simp [hall, List.mapIdx_eq_iff]

end Row

/-! ### The turns to a leaf -/

/-- **A turn at a tee.** -/
inductive Turn
  /-- To the first visitor. -/
  | first
  /-- To the second visitor. -/
  | second
deriving DecidableEq

/-- **The fault of a leaf under the turns that lead to it**, from the root down. -/
def Fault.under : List Turn → LeafFault → Fault
  | [], x => .leaf x
  | .first :: turns, x => .first (under turns x)
  | .second :: turns, x => .second (under turns x)

/-- **The answer of a leaf under the turns that lead to it.** -/
def Answer.under (turns : List Turn) (a : Answer LeafFault) : Answer Fault :=
  a.map (Fault.under turns)

namespace Visitor

/-- **The turns that lead to each leaf**, for the leaves from left to right. -/
def turns : Visitor → List (List Turn)
  | leaf _ => [[]]
  | tee a b => a.turns.map (.first :: ·) ++ b.turns.map (.second :: ·)

theorem length_turns (v : Visitor) : v.turns.length = v.leaves.length := by
  induction v with
  | leaf l => rfl
  | tee a b iha ihb => simp [turns, leaves, iha, ihb]

/-! ### One cue of a tree -/

variable {v : Visitor} {q : Cue}

theorem perform_leaf (l : Leaf) (q : Cue) :
    (leaf l).perform q = (leaf (l.perform q).1, (l.perform q).2.map .leaf) := by
  cases q <;> rfl

theorem perform_tee_of_accepted {a : Visitor} (h : (a.perform q).2 = .accepted) (b : Visitor) :
    (tee a b).perform q =
      (tee (a.perform q).1 (b.perform q).1, (b.perform q).2.map .second) := by
  cases q with
  | call c =>
    have hstep : a.step c = ((a.step c).1, .accepted) := Prod.ext rfl h
    rw [perform, step, hstep]
    rfl
  | allow room => rfl

theorem perform_tee_of_ne {a : Visitor} (h : (a.perform q).2 ≠ .accepted) (b : Visitor) :
    (tee a b).perform q = (tee (a.perform q).1 b, (a.perform q).2.map .first) := by
  cases q with
  | call c =>
    rw [perform, step]
    rcases hstep : a.step c with ⟨a', _ | f | _⟩
    · exact absurd (congrArg Prod.snd hstep) h
    · simp [perform, hstep]
    · simp [perform, hstep]
  | allow room => exact absurd rfl h

/-- **A tree accepts what all its leaves accept.** -/
theorem perform_eq_accepted_iff :
    (v.perform q).2 = .accepted ↔ ∀ l ∈ v.leaves, l.Accepts q := by
  induction v with
  | leaf l =>
    rw [perform_leaf, Answer.map_eq_accepted_iff]
    simp [leaves, Leaf.Accepts]
  | tee a b iha ihb =>
    rw [leaves, List.forall_mem_append, ← iha, ← ihb]
    by_cases ha : (a.perform q).2 = .accepted
    · simp [perform_tee_of_accepted ha, ha]
    · simp [perform_tee_of_ne ha, ha]

/-- **A cue goes along the leaves of a tree** from left to right. -/
theorem leaves_perform (v : Visitor) (q : Cue) :
    (v.perform q).1.leaves = passAlong q v.leaves := by
  induction v with
  | leaf l =>
    rw [perform_leaf]
    simp [leaves, passAlong, Reaches]
  | tee a b iha ihb =>
    rw [leaves, passAlong_append, ← iha, ← ihb]
    by_cases ha : (a.perform q).2 = .accepted
    · rw [perform_tee_of_accepted ha, if_pos (perform_eq_accepted_iff.mp ha), leaves]
    · rw [perform_tee_of_ne ha, if_neg (mt perform_eq_accepted_iff.mpr ha), leaves]

/-- **What is not accepted ends at a leaf** which the cue reaches, and the tree answers as that
leaf does, under the turns to it. -/
theorem exists_leaf_of_ne (h : (v.perform q).2 ≠ .accepted) :
    ∃ i l path, v.leaves[i]? = some l ∧ v.turns[i]? = some path ∧ Reaches v.leaves i q ∧
      ¬l.Accepts q ∧ (v.perform q).2 = (l.perform q).2.under path := by
  induction v with
  | leaf l =>
    rw [perform_leaf] at h ⊢
    exact ⟨0, l, [], rfl, rfl, by simp [Reaches], mt Answer.map_eq_accepted_iff.mpr h, rfl⟩
  | tee a b iha ihb =>
    by_cases ha : (a.perform q).2 = .accepted
    · rw [perform_tee_of_accepted ha] at h ⊢
      obtain ⟨i, l, path, hl, hpath, hreach, hlq, hanswer⟩ :=
        ihb (mt Answer.map_eq_accepted_iff.mpr h)
      refine ⟨i + a.leaves.length, l, .second :: path, ?_, ?_, ?_, hlq, ?_⟩
      · rw [leaves, List.getElem?_append_right (Nat.le_add_left _ _), Nat.add_sub_cancel, hl]
      · rw [turns, List.getElem?_append_right (by simp [length_turns]), List.length_map,
          length_turns, Nat.add_sub_cancel, List.getElem?_map, hpath]
        rfl
      · exact (reaches_append_right i _).mpr ⟨perform_eq_accepted_iff.mp ha, hreach⟩
      · rw [hanswer, Answer.under, Answer.map_map]
        rfl
    · rw [perform_tee_of_ne ha]
      obtain ⟨i, l, path, hl, hpath, hreach, hlq, hanswer⟩ := iha ha
      have hi : i < a.leaves.length := (List.getElem?_eq_some_iff.mp hl).1
      refine ⟨i, l, .first :: path, ?_, ?_, (reaches_append_left hi _).mpr hreach, hlq, ?_⟩
      · rw [leaves, List.getElem?_append_left hi, hl]
      · rw [turns, List.getElem?_append_left (by simpa [length_turns] using hi), List.getElem?_map,
          hpath]
        rfl
      · rw [hanswer, Answer.under, Answer.map_map]
        rfl

/-- **The answer of a tree, if it does not accept, is that of the leftmost leaf not to accept the
cue**, under the turns to it. -/
theorem perform_eq_iff_of_ne {answer : Answer Fault} (h : answer ≠ .accepted) :
    (v.perform q).2 = answer ↔
      ∃ i l path, v.leaves[i]? = some l ∧ v.turns[i]? = some path ∧ Reaches v.leaves i q ∧
        (l.perform q).2.under path = answer := by
  constructor
  · rintro rfl
    obtain ⟨i, l, path, hl, hpath, hreach, -, hanswer⟩ := exists_leaf_of_ne h
    exact ⟨i, l, path, hl, hpath, hreach, hanswer.symm⟩
  · rintro ⟨i, l, path, hl, hpath, hreach, rfl⟩
    have hlq : ¬l.Accepts q := mt Answer.map_eq_accepted_iff.mpr h
    have htree : (v.perform q).2 ≠ .accepted := fun hall =>
      hlq (perform_eq_accepted_iff.mp hall l (List.mem_of_getElem? hl))
    -- the cue ends at one leaf only, and that is this one
    obtain ⟨j, m, path', hm, hpath', hreach', hmq, hanswer⟩ := exists_leaf_of_ne htree
    obtain rfl := reaches_unique hl hm hreach hreach' hlq hmq
    obtain rfl : l = m := Option.some.inj (hl.symm.trans hm)
    obtain rfl : path = path' := Option.some.inj (hpath.symm.trans hpath')
    exact hanswer

/-- **A stop** is that of a leaf. -/
theorem perform_eq_stopped_iff :
    (v.perform q).2 = .stopped ↔
      ∃ i l, v.leaves[i]? = some l ∧ Reaches v.leaves i q ∧ (l.perform q).2 = .stopped := by
  rw [perform_eq_iff_of_ne (by simp)]
  simp only [Answer.under, Answer.map_eq_stopped_iff]
  constructor
  · rintro ⟨i, l, path, hl, -, hreach, hstop⟩
    exact ⟨i, l, hl, hreach, hstop⟩
  · rintro ⟨i, l, hl, hreach, hstop⟩
    have hi : i < v.turns.length := by
      rw [length_turns]
      exact (List.getElem?_eq_some_iff.mp hl).1
    exact ⟨i, l, v.turns[i], hl, List.getElem?_eq_getElem hi, hreach, hstop⟩

/-! ### Runs of a tree -/

/-- **What a leaf hears of a run**: the cues that all leaves to its left accept, each in the
state in which the cue finds it, and none after a stop. -/
def heard (v : Visitor) (i : Nat) : List Cue → List Cue
  | [] => []
  | q :: qs =>
    let later := if (v.perform q).2 = .stopped then [] else (v.perform q).1.heard i qs
    if Reaches v.leaves i q then q :: later else later

/-- **What is left of a leaf and of what it hears** after the first cue of a run. -/
theorem run_heard_cons {i : Nat} {l : Leaf} (hl : v.leaves[i]? = some l) (q : Cue) (qs : List Cue)
    (h : (v.perform q).2 ≠ .stopped) :
    let next := if Reaches v.leaves i q then (l.perform q).1 else l
    (l.run (v.heard i (q :: qs))).1 = (next.run ((v.perform q).1.heard i qs)).1 ∧
      (.stopped ∉ (l.run (v.heard i (q :: qs))).2 ↔
        .stopped ∉ (next.run ((v.perform q).1.heard i qs)).2) := by
  intro next
  rw [heard, if_neg h]
  by_cases hreach : Reaches v.leaves i q
  · -- were the leaf to stop the program, the whole tree would
    have hgoes : (l.perform q).2 ≠ .stopped := fun hstop =>
      h (perform_eq_stopped_iff.mpr ⟨i, l, hl, hreach, hstop⟩)
    have hnext : next = (l.perform q).1 := if_pos hreach
    rw [if_pos hreach, hnext, Leaf.run, Leaf.run, stopped_notMem_cons_iff, runWith_cons hgoes]
    exact ⟨rfl, and_iff_right hgoes⟩
  · have hnext : next = l := if_neg hreach
    rw [if_neg hreach, hnext]
    exact ⟨rfl, Iff.rfl⟩

/-- **A run is not stopped** when no leaf is stopped alone, by what it hears. -/
theorem stopped_notMem_run_iff {qs : List Cue} :
    .stopped ∉ (v.run qs).2 ↔
      ∀ i (l : Leaf), v.leaves[i]? = some l → .stopped ∉ (l.run (v.heard i qs)).2 := by
  induction qs generalizing v with
  | nil => simp [run, Leaf.run, heard]
  | cons q qs ih =>
    by_cases h : (v.perform q).2 = .stopped
    · obtain ⟨i, l, hl, hreach, hstop⟩ := perform_eq_stopped_iff.mp h
      refine iff_of_false ?_ fun hall => hall i l hl ?_
      · rw [run, runWith_cons_of_stopped h]
        simp
      · rw [heard, if_pos h, if_pos hreach, Leaf.run, runWith_singleton, hstop]
        simp
    · rw [run, stopped_notMem_cons_iff, and_iff_right h, ← run, ih]
      simp only [leaves_perform, passAlong, List.getElem?_mapIdx, Option.map_eq_some_iff]
      constructor
      · intro hall i l hl
        exact (run_heard_cons hl q qs h).2.mpr (hall i _ ⟨l, hl, rfl⟩)
      · rintro hall i _ ⟨l, hl, rfl⟩
        exact (run_heard_cons hl q qs h).2.mp (hall i l hl)

end Visitor

end ScanAudit
