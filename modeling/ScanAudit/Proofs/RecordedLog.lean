import ScanAudit.Proofs.Audit
import ScanAudit.Proofs.BranchSymmetry
import ScanAudit.Proofs.Duplicates
import ScanAudit.Proofs.Recording
import ScanAudit.Proofs.RegionBalance

/-!
# Recorded logs name their regions

The checks take any log. So they have to say what they do with an event of a parallel region
that does not name the region, and two of them fail at the first such event. A recorder never
writes one. It keeps records with the layout of their kind and no others
(`ScanAudit.Recorder.Orderly`), whatever callbacks it hears and whether or not one of them
ends the recording: a callback that is refused leaves no record behind, not even a part of
one.

What has the layout of its kind can be told by which slots are set
(`ScanAudit.Record.shaped_iff`), and for the kinds that are about a region the first slot is
one of these. So the failure that reports a nameless event is for logs that come from
elsewhere (`ScanAudit.Recorder.run_fresh_shaped`).
-/

namespace ScanAudit

/-! ### The slots of a record with the layout of its kind -/

/-- **The layout of a kind, slot by slot**: what must be set, what must be absent, and
nothing more. -/
theorem Record.shaped_iff {r : Record} :
    r.Shaped ↔ r.slot3 = none ∧
      (r.kind.isParallel → r.slot0 ≠ none ∧ r.slot1 ≠ none ∧ r.slot2 = none) ∧
      (r.kind = .chunkStart ∨ r.kind = .chunkEnd → r.slot0 ≠ none ∧ r.slot2 = none) ∧
      (r.kind = .atom → r.slot1 ≠ none) := by
  constructor
  · intro h
    cases h <;> simp [atom, chunkStart, chunkEnd, parallelStart, parallelEnd, branchStart,
      branchEnd, Kind.isParallel]
  · obtain ⟨k, slot0, slot1, slot2, slot3⟩ := r
    rintro ⟨rfl, hparallel, hchunk, hatom⟩
    cases k with
    | atom =>
      obtain ⟨current, rfl⟩ := Option.ne_none_iff_exists'.mp (hatom rfl)
      exact .atom slot0 current slot2
    | chunkStart =>
      obtain ⟨hstart, rfl⟩ := hchunk (Or.inl rfl)
      obtain ⟨start, rfl⟩ := Option.ne_none_iff_exists'.mp hstart
      exact .chunkStart start slot1
    | chunkEnd =>
      obtain ⟨hlast, rfl⟩ := hchunk (Or.inr rfl)
      obtain ⟨last, rfl⟩ := Option.ne_none_iff_exists'.mp hlast
      exact .chunkEnd last slot1
    | parallelStart | parallelEnd | branchStart | branchEnd =>
      obtain ⟨hregion, hother, rfl⟩ := hparallel rfl
      obtain ⟨region, rfl⟩ := Option.ne_none_iff_exists'.mp hregion
      obtain ⟨other, rfl⟩ := Option.ne_none_iff_exists'.mp hother
      constructor

theorem Record.Shaped.region_ne_none {r : Record} (h : r.Shaped) (hk : r.kind.isParallel) :
    r.region ≠ none :=
  Option.ne_none_iff_exists'.mpr (h.exists_region hk)

/-! ### What a recorder keeps -/

namespace Recorder

/-- **A recorder is orderly** when every record it keeps has the layout of its kind. -/
def Orderly (r : Recorder) : Prop :=
  ∀ record ∈ r.log.toList, record.Shaped

theorem orderly_fresh : Orderly fresh := by
  intro record h
  simp [fresh] at h

/-- **One callback** leaves an orderly recorder orderly, accepted or not. -/
theorem Orderly.step {r : Recorder} (h : r.Orderly) (c : Callback) : (r.step c).1.Orderly := by
  rcases hfailure : r.failure with _ | e
  · rcases hc : c.record with e | record
    · rw [step_of_malformed hfailure hc]
      exact h
    · rw [step_of_record hfailure hc]
      intro kept hkept
      rw [Log.toList_push, List.mem_append, List.mem_singleton] at hkept
      rcases hkept with hkept | rfl
      · exact h kept hkept
      · exact Callback.shaped_record hc
  · rw [step_of_failure hfailure]
    exact h

/-- **A whole run** leaves an orderly recorder orderly, wherever it fails. -/
theorem Orderly.run {r : Recorder} (h : r.Orderly) (cs : List Callback) :
    (r.run cs).1.Orderly := by
  induction cs generalizing r with
  | nil => exact h
  | cons c cs ih => exact ih (h.step c)

end Recorder

/-! ### The checks of a log with the layout of its kinds -/

section Checks

variable {d : Direction} {log : List Record} {r : Record} {index : Nat}

/-- A record with the layout of its kind names the region it opens or closes. -/
theorem Regions.not_nameless_of_shaped (h : r.Shaped) : ¬Nameless d r := by
  rintro ⟨hk, hr⟩
  have hparallel : r.kind.isParallel := by
    cases d <;> rcases hk with hk | hk <;> simp [hk, Kind.isParallel, Direction.openKind,
      Direction.closeKind]
  exact h.region_ne_none hparallel hr

/-- A record with the layout of its kind names the region of its branch. -/
theorem Branches.not_orphan_of_shaped (h : r.Shaped) : ¬Orphan r := by
  rintro ⟨hk, hr⟩
  have hparallel : r.kind.isParallel := by rcases hk with hk | hk <;> simp [hk, Kind.isParallel]
  exact h.region_ne_none hparallel hr

theorem Regions.check_ne_missingRegion (h : ∀ s ∈ log, s.Shaped) :
    Regions.check d log ≠ .error (.missingRegion r index) := by
  intro hcheck
  obtain ⟨-, hget, hnameless⟩ := check_eq_missing_iff.mp hcheck
  exact not_nameless_of_shaped (h r (List.mem_of_getElem? hget)) hnameless

theorem Branches.check_ne_missingRegion (h : ∀ s ∈ log, s.Shaped) :
    Branches.check log ≠ .error (.missingRegion r index) := by
  intro hcheck
  -- of the rules for the verdict only one reports a nameless event, and it has one at hand
  cases check_eq_iff.mp hcheck with
  | orphan hlog _ horphan =>
    refine not_orphan_of_shaped (h r ?_) horphan
    rw [hlog]
    exact List.mem_append_right _ List.mem_cons_self

/-- The check for repeated records does not look at regions, in any log. -/
theorem Duplicates.check_ne_missingRegion :
    Duplicates.check log ≠ .error (.missingRegion r index) := by
  intro hcheck
  have hrepeat : ¬log.Nodup := by
    rw [← check_eq_ok_iff_nodup, hcheck]
    simp
  obtain ⟨first, found, hfirst⟩ := exists_firstRepeat hrepeat
  obtain ⟨-, s, -, hs⟩ := repeats_iff.mp hfirst.1
  rw [check_of_firstRepeat hfirst hs] at hcheck
  exact absurd hcheck (by simp)

/-- **A report finds no nameless event** in a log whose records have the layout of their
kinds. -/
theorem Report.ne_missingRegion_of_mem_failures (h : ∀ s ∈ log, s.Shaped) {v : Violation}
    (hv : v ∈ (audit d log).failures) : v ≠ .missingRegion r index := by
  rintro rfl
  obtain ⟨k, hk⟩ := mem_failures_audit_iff.mp hv
  cases k with
  | duplicates => exact Duplicates.check_ne_missingRegion hk
  | regionBalance => exact Regions.check_ne_missingRegion h hk
  | branchSymmetry => exact Branches.check_ne_missingRegion h hk

end Checks

/-- **Every log that is recorded has the layout of its kinds**, whatever the callbacks: each
of its records is built by the constructor of its kind. So the last slot is absent; an event
of a parallel region has its first two slots set and the third one absent; an event of a chunk
has its first slot set and the third one absent; and a plain node has the second slot set.

Therefore no check of a recorded log reports an event that does not name its region, in either
direction. -/
theorem Recorder.run_fresh_shaped (cs : List Callback) :
    let log := (fresh.run cs).1.log.toList
    (∀ r ∈ log, r.Shaped ∧ r.slot3 = none ∧
      (r.kind.isParallel → r.slot0 ≠ none ∧ r.slot1 ≠ none ∧ r.slot2 = none) ∧
      (r.kind = .chunkStart ∨ r.kind = .chunkEnd → r.slot0 ≠ none ∧ r.slot2 = none) ∧
      (r.kind = .atom → r.slot1 ≠ none)) ∧
    ∀ d r index,
      (∀ v ∈ (Report.audit d log).failures, v ≠ .missingRegion r index) ∧
      Regions.check d log ≠ .error (.missingRegion r index) ∧
      Branches.check log ≠ .error (.missingRegion r index) := by
  intro log
  have hshaped : ∀ r ∈ log, r.Shaped := orderly_fresh.run cs
  refine ⟨fun r hr => ⟨hshaped r hr, Record.shaped_iff.mp (hshaped r hr)⟩, fun d r index =>
    ⟨fun v hv => Report.ne_missingRegion_of_mem_failures hshaped hv,
      Regions.check_ne_missingRegion hshaped, Branches.check_ne_missingRegion hshaped⟩⟩

end ScanAudit
