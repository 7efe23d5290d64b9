import Mathlib.Data.List.Permutation
import ScanAudit.Proofs.Audit
import ScanAudit.Proofs.BranchSymmetry
import ScanAudit.Proofs.Duplicates
import ScanAudit.Proofs.RegionBalance

/-!
# Logs that begin late

A scan may begin in the middle of an execution, and then its log lacks the events before
that point. If the whole log passes the checks, what is left of it fails no check for that
reason, but for one thing: a branch may have been cut in two.

* What is repeated in the rest is repeated in the whole.
* A region opened before the cut and closed after it is closed in the rest without having
  been opened, which is legal; and within the rest, an event closes what it closes in the
  whole. For at any event the regions pending in the rest are the innermost ones of those
  pending in the whole (`ScanAudit.Regions.scan_of_prefix`).
* A region has as many branch starts as branch ends in the rest exactly when it has so in
  what was cut off, since it has so in the whole.
-/

namespace ScanAudit

/-! ### Nesting -/

namespace Regions

variable {d : Direction}

/-- **One event after a cut**: where the pending regions are the innermost of those that are
pending in the whole, they still are after the event. -/
theorem step_of_prefix {inner pending next : List NodeId} {index : Nat} {r : Record}
    (h : step d pending index r = .ok next) (hinner : inner <+: pending) (index' : Nat) :
    ∃ inner', step d inner index' r = .ok inner' ∧ inner' <+: next := by
  rcases step_eq_ok_iff.mp h with
    ⟨hr, rfl⟩ | ⟨region, hr, rfl⟩ | ⟨region, hr, ⟨rfl, rfl⟩ | rfl⟩
  · exact ⟨inner, step_of_neutral hr _ _, hinner⟩
  · exact ⟨region :: inner, step_of_opens hr _ _, List.cons_prefix_cons.mpr ⟨rfl, hinner⟩⟩
  · obtain rfl := List.prefix_nil.mp hinner
    exact ⟨[], step_of_closes_nil hr _, List.prefix_rfl⟩
  · rcases List.prefix_cons_iff.mp hinner with rfl | ⟨inner', rfl, hinner'⟩
    · -- the region was opened before the cut
      exact ⟨[], step_of_closes_nil hr _, List.nil_prefix⟩
    · exact ⟨inner', step_of_closes hr _ _, hinner'⟩

/-- **A walk from a cut** goes wherever the walk over the whole goes, with the innermost of
its pending regions. -/
theorem scan_of_prefix {log : List Record} {inner pending last : List NodeId} {index : Nat}
    (h : scan d pending index log = .ok last) (hinner : inner <+: pending) (index' : Nat) :
    ∃ inner', scan d inner index' log = .ok inner' ∧ inner' <+: last := by
  induction log generalizing inner pending index index' with
  | nil =>
    obtain rfl : pending = last := Except.ok.inj h
    exact ⟨inner, rfl, hinner⟩
  | cons r log ih =>
    obtain ⟨next, hr, hrest⟩ := scan_cons_eq_ok_iff.mp h
    obtain ⟨innerNext, hr', hnext⟩ := step_of_prefix hr hinner index'
    obtain ⟨inner', hrest', hlast⟩ := ih hrest hnext (index' + 1)
    exact ⟨inner', scan_cons_eq_ok_iff.mpr ⟨innerNext, hr', hrest'⟩, hlast⟩

/-- **The end of an accepted log is accepted**, wherever it begins. -/
theorem check_of_append {a b : List Record} (h : check d (a ++ b) = .ok ()) :
    check d b = .ok () := by
  obtain ⟨pending, -, hb⟩ := scan_append_eq_ok_iff.mp (check_eq_ok_iff_scan.mp h)
  obtain ⟨inner, hscan, hinner⟩ := scan_of_prefix hb List.nil_prefix 0
  rw [List.prefix_nil.mp hinner] at hscan
  exact check_eq_ok_iff_scan.mpr hscan

end Regions

/-! ### Branches -/

/-- **The violation is about the numbers of branch events** of a region. -/
inductive Violation.Lopsided : Violation → Prop
  /-- There are some on either side, but not equally many. -/
  | counts (region : NodeId) (starts ends : Nat) : Lopsided (.branchCounts region starts ends)
  /-- There are some on one side only. -/
  | sideMissing (region : NodeId) (missing : BranchSide) :
      Lopsided (.branchSideMissing region missing)

namespace Branches

/-- Where every branch event names its region, only numbers can be wrong. -/
theorem lopsided_of_check {log : List Record} (hnamed : ∀ r ∈ log, ¬Orphan r) {v : Violation}
    (h : check log = .error v) : v.Lopsided := by
  cases check_eq_iff.mp h with
  | orphan hlog _ hr => exact absurd hr (hnamed _ (by rw [hlog]; simp))
  | endless | startless => exact .sideMissing _ _
  | unequal => exact .counts _ _ _

/-- **In a symmetric log cut in two**, both parts have all their branch events named, and
one is symmetric when the other is. -/
theorem check_append_cases {a b : List Record} (h : check (a ++ b) = .ok ()) :
    (∀ r ∈ a, ¬Orphan r) ∧ (∀ r ∈ b, ¬Orphan r) ∧ (check b = .ok () ↔ check a = .ok ()) := by
  obtain ⟨hnamed, hcounts⟩ := check_eq_ok_iff.mp h
  obtain ⟨ha, hb⟩ := List.forall_mem_append.mp hnamed
  refine ⟨ha, hb, ?_⟩
  rw [check_eq_ok_iff, check_eq_ok_iff, and_iff_right ha, and_iff_right hb]
  refine forall_congr' fun region => ?_
  have hsum := hcounts region
  rw [countOf_append, countOf_append] at hsum
  omega

end Branches

/-! ### All checks -/

namespace Report

variable {d : Direction} {log : List Record}

/-- A log without repetitions and with balanced regions can fail for its branches only. -/
theorem failures_audit_of_checks (hduplicates : Duplicates.check log = .ok ())
    (hregions : Regions.check d log = .ok ()) :
    (audit d log).failures = (Check.branchSymmetry.violation? d log).toList := by
  have hnone : Check.duplicates.violation? d log = none :=
    Check.violation?_eq_none_iff.mpr hduplicates
  have hnone' : Check.regionBalance.violation? d log = none :=
    Check.violation?_eq_none_iff.mpr hregions
  rw [failures_audit_eq, hnone, hnone']
  rfl

/-- **What a cut can do to a report**: nothing, if the part cut off is symmetric; and else
there is one failure, which is about the numbers of branch events. -/
theorem failures_audit_of_append {a b : List Record} (h : (audit d (a ++ b)).failures = []) :
    (∀ r ∈ a, ¬Branches.Orphan r) ∧
      ((audit d b).failures = [] ∧ Branches.check a = .ok () ∨
        (∃ v, (audit d b).failures = [v] ∧ v.Lopsided) ∧ Branches.check a ≠ .ok ()) := by
  obtain ⟨hduplicates, hregions, hbranches⟩ := failures_audit_eq_nil_iff.mp h
  have hduplicates : Duplicates.check b = .ok () := by
    rw [Duplicates.check_eq_ok_iff_nodup] at hduplicates ⊢
    exact (List.nodup_append.mp hduplicates).2.1
  obtain ⟨ha, hb, hiff⟩ := Branches.check_append_cases hbranches
  refine ⟨ha, ?_⟩
  rw [failures_audit_of_checks hduplicates (Regions.check_of_append hregions), Ne, ← hiff,
    Check.violation?, Check.run]
  rcases hcheck : Branches.check b with v | ⟨⟩
  · exact Or.inr ⟨⟨v, rfl, Branches.lopsided_of_check hb hcheck⟩, by simp⟩
  · exact Or.inl ⟨rfl, rfl⟩

theorem passed_iff {report : Report} : report.passed = true ↔ report.failures = [] := by
  rw [passed, List.isEmpty_iff]

/-- **A log that begins late raises no false alarm**, except for branches cut in two: the
rest of a log that passes fails no check but that of the branches, and it passes exactly
when what was cut off has as many branch starts as branch ends for every region. -/
theorem audit_drop (d : Direction) (log : List Record) (h : (audit d log).passed = true)
    (k : Nat) :
    let rest := audit d (log.drop k)
    (∀ v ∈ rest.failures, v.Lopsided) ∧
      (rest.passed = true ∨ ∃ v, rest.failures = [v]) ∧
      (rest.passed = true ↔ Branches.check (log.take k) = .ok ()) ∧
      (Branches.check (log.take k) = .ok () ↔
        ∀ region, Branches.countOf .branchStart region (log.take k) =
          Branches.countOf .branchEnd region (log.take k)) := by
  intro rest
  rw [passed_iff, ← List.take_append_drop k log] at h
  obtain ⟨hnamed, hcases⟩ := failures_audit_of_append h
  have hcounts : Branches.check (log.take k) = .ok () ↔ _ :=
    Branches.check_eq_ok_iff.trans (and_iff_right hnamed)
  rw [passed_iff]
  rcases hcases with ⟨hrest, hcut⟩ | ⟨⟨v, hrest, hv⟩, hcut⟩
  · exact ⟨by simp [rest, hrest], Or.inl hrest, iff_of_true hrest hcut, hcounts⟩
  · have hfailed : rest.failures ≠ [] := by simp [rest, hrest]
    exact ⟨by simp [rest, hrest, hv], Or.inr ⟨v, hrest⟩, iff_of_false hfailed hcut, hcounts⟩

/-! ### An example -/

/-- The log of region 12 inside the only branch of region 4, inside a region that is still
running. -/
def nestedLog : List Record :=
  let node (n : Fin 4294967296) : NodeId := ⟨n, n.isLt⟩
  [.parallelEnd (node 4) (node 11), .branchEnd (node 4) (node 10),
    .parallelEnd (node 12) (node 15), .branchEnd (node 12) (node 13),
    .branchStart (node 12) (node 13), .parallelStart (node 12) (node 13),
    .branchStart (node 4) (node 6), .parallelStart (node 4) (node 6),
    .parallelStart (node 2) (node 3)]

/-- **A cut through a branch** of a log that passes: what is left of the log fails for that
branch and for nothing else, and what was cut off is not symmetric. -/
theorem audit_nestedLog_inside_branch :
    (audit .backward nestedLog).passed = true ∧
      (audit .backward (nestedLog.drop 2)).failures =
        [.branchSideMissing ⟨4, by decide⟩ .finish] ∧
      Branches.check (nestedLog.take 2) ≠ .ok () := by
  have hpassed : (audit .backward nestedLog).passed = true := by cbv
  have hrest : (audit .backward (nestedLog.drop 2)).failures =
      [.branchSideMissing ⟨4, by decide⟩ .finish] := by cbv
  refine ⟨hpassed, hrest, fun hcut => ?_⟩
  have hrestPassed := (audit_drop .backward nestedLog hpassed 2).2.2.1.mpr hcut
  rw [passed_iff, hrest] at hrestPassed
  exact absurd hrestPassed (List.cons_ne_nil _ _)

end Report

end ScanAudit
