import ScanAudit.Proofs.BranchSymmetry

/-!
# What the symmetry check does not look at

The verdict on the branches of a log is a matter of counting, and so it cannot depend on
the order in which they are reported. This module says exactly what it depends on: the kinds
of the branch events and the regions they name (`ScanAudit.Branches.marks`), in any order.
The nodes at which branches start and end do not count, and neither do events of other kinds
in between.

Only a log with an orphan is different. There the check ends at the first orphan, and
which record that is and where it stands does depend on the order; that there is one does
not.
-/

namespace ScanAudit.Branches

/-! ### The marks of a log -/

/-- **The marks of a log**: the kind of each branch event and the region it names, if it names
one. -/
def marks (log : List Record) : List (Kind × Option NodeId) :=
  (log.filter fun r => r.kind = .branchStart ∨ r.kind = .branchEnd).map fun r => (r.kind, r.region)

theorem mem_marks_iff {log : List Record} {k : Kind} {region : Option NodeId} :
    (k, region) ∈ marks log ↔
      ∃ r ∈ log, (r.kind = .branchStart ∨ r.kind = .branchEnd) ∧ r.kind = k ∧ r.region = region := by
  simp [marks, and_assoc]

/-- A log has an orphan exactly when one of its marks is without a region. -/
theorem exists_orphan_iff {log : List Record} :
    (∃ r ∈ log, Orphan r) ↔ ∃ k, (k, none) ∈ marks log := by
  simp only [mem_marks_iff, Orphan]
  constructor
  · rintro ⟨r, hr, hk, hregion⟩
    exact ⟨r.kind, r, hr, hk, rfl, hregion⟩
  · rintro ⟨k, r, hr, hk, -, hregion⟩
    exact ⟨r, hr, hk, hregion⟩

/-- **The events of a side that a log has for a region** are so many of its marks. -/
theorem countOf_eq_count_marks (side : BranchSide) (region : NodeId) (log : List Record) :
    countOf (kindOf side) region log = (marks log).count (kindOf side, some region) := by
  rw [countOf, marks, List.count, List.countP_map, List.countP_filter]
  -- the filter for branch events drops no record that is counted
  refine List.countP_congr fun r _ => ?_
  have hbranch (hk : r.kind = kindOf side) : r.kind = .branchStart ∨ r.kind = .branchEnd := by
    cases side with
    | start => exact Or.inl hk
    | finish => exact Or.inr hk
  simp only [Function.comp, Bool.and_eq_true, beq_iff_eq, decide_eq_true_eq, Prod.mk.injEq]
  exact ⟨fun h => ⟨h, hbranch h.1⟩, fun h => h.1⟩

/-! ### The verdict from the counts -/

section Congr

variable {a b : List Record}

/-- **Two logs count alike** when they have as many events of each side for every region. -/
def CountAlike (a b : List Record) : Prop :=
  ∀ side region, countOf (kindOf side) region a = countOf (kindOf side) region b

theorem CountAlike.starts (h : CountAlike a b) (region : NodeId) :
    countOf .branchStart region a = countOf .branchStart region b :=
  h .start region

theorem CountAlike.ends (h : CountAlike a b) (region : NodeId) :
    countOf .branchEnd region a = countOf .branchEnd region b :=
  h .finish region

theorem CountAlike.unequal (h : CountAlike a b) : Unequal a = Unequal b := by
  funext region
  simp only [Unequal, h.starts, h.ends]

theorem CountAlike.startless (h : CountAlike a b) : Startless a = Startless b := by
  funext region
  simp only [Startless, h.starts, h.ends]

/-- **The counts decide the verdict** on logs without orphans: the same rule applies to both. -/
theorem CountAlike.verdict (h : CountAlike a b) (ha : ∀ r ∈ a, ¬Orphan r)
    (hb : ∀ r ∈ b, ¬Orphan r) {result : Except Violation Unit} (hv : Verdict a result) :
    Verdict b result := by
  cases hv with
  | orphan hlog _ hr => exact absurd hr (ha _ (by rw [hlog]; simp))
  -- in all other cases the rule reads nothing but counts
  | endless _ hleast hzero => exact .endless hb (h.unequal ▸ hleast) (h.ends _ ▸ hzero)
  | unequal _ hleast hpos =>
    rw [h.starts, h.ends]
    exact .unequal hb (h.unequal ▸ hleast) (h.ends _ ▸ hpos)
  | startless _ hequal hleast => exact .startless hb (h.unequal ▸ hequal) (h.startless ▸ hleast)
  | symmetric _ hequal hstarted => exact .symmetric hb (h.unequal ▸ hequal) (h.startless ▸ hstarted)

theorem CountAlike.check_eq (h : CountAlike a b) (ha : ∀ r ∈ a, ¬Orphan r)
    (hb : ∀ r ∈ b, ¬Orphan r) : check a = check b := by
  obtain ⟨result, hverdict⟩ := exists_verdict a
  rw [check_of_verdict hverdict, check_of_verdict (h.verdict ha hb hverdict)]

/-- Logs with the same marks, in any order, count alike. -/
theorem countAlike_of_perm (h : (marks a).Perm (marks b)) : CountAlike a b := by
  intro side region
  rw [countOf_eq_count_marks, countOf_eq_count_marks, h.count_eq]

/-- A log with an orphan is reported for one. -/
theorem exists_check_of_orphan (h : ∃ r ∈ a, Orphan r) :
    ∃ r index, a[index]? = some r ∧ Orphan r ∧ check a = .error (.missingRegion r index) := by
  obtain ⟨before, r, after, rfl, hbefore, hr⟩ := exists_first_orphan h
  exact ⟨r, before.length, by simp, hr, check_of_orphan hbefore hr⟩

end Congr

/-- **The verdict on branches does not depend on the order of events**, nor on the nodes at
which branches start and end, nor on events of other kinds. Let two logs have the same marks,
in any order. If no branch event is without a region, the check answers the same for both,
with the same region and the same numbers. Else both logs have an orphan, and each is reported
for one of its own. -/
theorem check_of_marks_perm {a b : List Record} (h : (marks a).Perm (marks b)) :
    ((∃ r ∈ a, Orphan r) ↔ ∃ r ∈ b, Orphan r) ∧
      ((∀ r ∈ a, ¬Orphan r) → check a = check b) ∧
      ((∃ r ∈ a, Orphan r) →
        (∃ r index, a[index]? = some r ∧ Orphan r ∧ check a = .error (.missingRegion r index)) ∧
          ∃ r index, b[index]? = some r ∧ Orphan r ∧
            check b = .error (.missingRegion r index)) := by
  have horphan : (∃ r ∈ a, Orphan r) ↔ ∃ r ∈ b, Orphan r := by
    simp only [exists_orphan_iff, h.mem_iff]
  refine ⟨horphan, fun ha => ?_, fun ha => ?_⟩
  · refine (countAlike_of_perm h).check_eq ha fun r hr hbad => ?_
    obtain ⟨s, hs, hsbad⟩ := horphan.mpr ⟨r, hr, hbad⟩
    exact ha s hs hsbad
  · exact ⟨exists_check_of_orphan ha, exists_check_of_orphan (horphan.mp ha)⟩

/-- Region 4 has one branch start too few and region 7 has no branch end: the check finds the
same where the branch events come in another order, at other nodes and among other events. -/
theorem check_mixedLog_eq :
    let log : List Record :=
      [.branchEnd ⟨4, by decide⟩ ⟨9, by decide⟩, .parallelEnd ⟨4, by decide⟩ ⟨11, by decide⟩,
        .branchStart ⟨7, by decide⟩ ⟨8, by decide⟩, .branchEnd ⟨4, by decide⟩ ⟨10, by decide⟩,
        .branchStart ⟨4, by decide⟩ ⟨5, by decide⟩]
    let reordered : List Record :=
      [.branchStart ⟨4, by decide⟩ ⟨1, by decide⟩, .branchEnd ⟨4, by decide⟩ ⟨2, by decide⟩,
        .branchEnd ⟨4, by decide⟩ ⟨2, by decide⟩, .atom none ⟨3, by decide⟩ none,
        .branchStart ⟨7, by decide⟩ ⟨1, by decide⟩]
    (marks log).Perm (marks reordered) ∧ (∀ r ∈ log, ¬Orphan r) ∧ check log = check reordered := by
  intro log reordered
  have hperm : (marks log).Perm (marks reordered) := by decide
  have hnamed : ∀ r ∈ log, ¬Orphan r := by decide
  exact ⟨hperm, hnamed, (check_of_marks_perm hperm).2.1 hnamed⟩

end ScanAudit.Branches
