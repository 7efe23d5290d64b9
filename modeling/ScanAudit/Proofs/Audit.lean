import ScanAudit.Check.Report

/-!
# The checks together

A report says nothing that its three checks do not say: it has no failure exactly when
each of them passes.
-/

namespace ScanAudit

variable {d : Direction} {log : List Record}

/-- A check finds no violation exactly when it passes. -/
theorem Check.violation?_eq_none_iff {k : Check} :
    k.violation? d log = none ↔ k.run d log = .ok () := by
  rw [violation?]
  rcases k.run d log with v | ⟨⟩ <;> simp

/-- A check finds the violation it fails with. -/
theorem Check.violation?_eq_some_iff {k : Check} {v : Violation} :
    k.violation? d log = some v ↔ k.run d log = .error v := by
  rw [violation?]
  rcases k.run d log with found | ⟨⟩ <;> simp

/-- Every check is among those that report. -/
theorem Check.mem_all (k : Check) : k ∈ all := by
  cases k <;> decide

namespace Report

/-- **The failures of a report**, check by check. -/
theorem failures_audit_eq :
    (audit d log).failures =
      (Check.duplicates.violation? d log).toList ++
        ((Check.regionBalance.violation? d log).toList ++
          (Check.branchSymmetry.violation? d log).toList) := by
  rw [audit, Check.all]
  simp only [List.filterMap_cons, List.filterMap_nil]
  rcases Check.duplicates.violation? d log <;> rcases Check.regionBalance.violation? d log <;>
    rcases Check.branchSymmetry.violation? d log <;> rfl

/-- **A failure of a report is what one of the checks found.** -/
theorem mem_failures_audit_iff {v : Violation} :
    v ∈ (audit d log).failures ↔ ∃ k : Check, k.run d log = .error v := by
  rw [audit, List.mem_filterMap]
  constructor
  · rintro ⟨k, -, hk⟩
    exact ⟨k, Check.violation?_eq_some_iff.mp hk⟩
  · rintro ⟨k, hk⟩
    exact ⟨k, k.mem_all, Check.violation?_eq_some_iff.mpr hk⟩

/-- **A report has no failure exactly when every check passes.** -/
theorem failures_audit_eq_nil_iff :
    (audit d log).failures = [] ↔
      Duplicates.check log = .ok () ∧ Regions.check d log = .ok () ∧
        Branches.check log = .ok () := by
  rw [audit, List.filterMap_eq_nil_iff]
  simp only [Check.violation?_eq_none_iff, Check.all, List.forall_mem_cons, Check.run]
  simp

/-- **The report on a log that passes every check.** -/
theorem audit_eq_of_checks (hduplicates : Duplicates.check log = .ok ())
    (hregions : Regions.check d log = .ok ()) (hbranches : Branches.check log = .ok ()) :
    audit d log = ⟨log.length, []⟩ := by
  have hnone : Check.all.filterMap (Check.violation? d log) = [] :=
    failures_audit_eq_nil_iff.mpr ⟨hduplicates, hregions, hbranches⟩
  rw [audit, hnone]

end Report

end ScanAudit
