import ScanAudit.Proofs.LevelBlocks

/-!
# The opposite direction

What opens a region in one direction closes it in the other. This module compares what the
balance check says in the two directions, about three pairs of logs.

* *A log and the same log read from its end.* Each block of a balanced log is a block from
  its other end too, so the log stays balanced (`ScanAudit.Regions.balanced_reverse_iff`). An
  accepted log need not stay accepted: an event that closes nothing becomes one that opens a
  region for good. But then the log is not level, and for level logs the two readings agree
  (`ScanAudit.Regions.check_reverse`).
* *A log and the same log, event for event.* If both readings pass, the log has no more
  opening than closing events in either, so it is level and balanced in both. But a balanced
  log that has an event of the nesting starts, neutral events apart, with one that opens a
  region, and that event closes one in the other reading
  (`ScanAudit.Regions.Balanced.neutral_of_reverse`). So there is no such event.
* *A log and its mirror image*, in which each start of a region stands as an end and each end
  as a start (`ScanAudit.Record.mirror`). The two walks go step by step with the same regions
  pending, and what the one finds is the mirror image of what the other finds
  (`ScanAudit.Regions.check_mirror`).
-/

namespace ScanAudit

@[simp] theorem Direction.reverse_reverse (d : Direction) : d.reverse.reverse = d := by
  cases d <;> rfl

/-- There are two directions. -/
theorem Direction.forall_iff {p : Direction → Prop} : (∀ d, p d) ↔ p .backward ∧ p .forward := by
  refine ⟨fun h => ⟨h _, h _⟩, fun h d => ?_⟩
  cases d with
  | backward => exact h.1
  | forward => exact h.2

namespace Regions

variable {d : Direction} {region : NodeId} {r : Record} {log : List Record}

/-! ### Events in the opposite direction -/

theorem opens_reverse_iff : Opens d.reverse region r ↔ Closes d region r := by
  rw [Opens, Closes, Direction.openKind_reverse]

theorem closes_reverse_iff : Closes d.reverse region r ↔ Opens d region r := by
  rw [Opens, Closes, Direction.closeKind_reverse]

theorem neutral_reverse_iff : Neutral d.reverse r ↔ Neutral d r := by
  rw [Neutral, Neutral, Direction.openKind_reverse, Direction.closeKind_reverse, and_comm]

theorem openings_reverse (log : List Record) : openings d.reverse log = closings d log := by
  rw [openings, closings, Direction.openKind_reverse]

theorem closings_reverse (log : List Record) : closings d.reverse log = openings d log := by
  rw [openings, closings, Direction.closeKind_reverse]

theorem level_reverse_iff : Level d.reverse log ↔ Level d log := by
  rw [Level, Level, openings_reverse, closings_reverse, eq_comm]

/-- A log that is accepted in the opposite direction closes no more than it opens. -/
theorem Accepted.closings_le_openings (h : Accepted d.reverse log) :
    closings d log ≤ openings d log := by
  have hle := h.openings_le_closings
  rwa [openings_reverse, closings_reverse] at hle

/-- An event that opens a region in one direction opens none in the other. -/
theorem Opens.not_opens_reverse (h : Opens d region r) (other : NodeId) :
    ¬Opens d.reverse other r := by
  intro hother
  have hclose : r.kind = d.closeKind := (opens_reverse_iff.mp hother).1
  exact d.openKind_ne_closeKind (h.1.symm.trans hclose)

/-! ### A log read from its end -/

/-- **A balanced log stays balanced when it is read from its end**, in the opposite
direction. -/
theorem Balanced.reverse (h : Balanced d log) : Balanced d.reverse log.reverse := by
  induction h with
  | nil => exact .nil
  | neutral hr _ ih =>
    rw [List.reverse_cons]
    exact ih.append (.neutral (neutral_reverse_iff.mpr hr) .nil)
  | @block _ o c inner rest ho _ hc _ ihInner ihRest =>
    -- the event that closes the block is the one that opens it from the other end
    have hblock : Balanced d.reverse (c :: (inner.reverse ++ [o])) :=
      .block (opens_reverse_iff.mpr hc) ihInner (closes_reverse_iff.mpr ho) .nil
    have hlog : (o :: (inner ++ c :: rest)).reverse =
        rest.reverse ++ c :: (inner.reverse ++ [o]) := by simp
    rw [hlog]
    exact ihRest.append hblock

theorem balanced_reverse_iff : Balanced d.reverse log.reverse ↔ Balanced d log := by
  refine ⟨fun h => ?_, Balanced.reverse⟩
  have hback := h.reverse
  rwa [Direction.reverse_reverse, List.reverse_reverse] at hback

theorem openings_log_reverse (log : List Record) : openings d log.reverse = openings d log :=
  List.countP_reverse

theorem closings_log_reverse (log : List Record) : closings d log.reverse = closings d log :=
  List.countP_reverse

theorem level_log_reverse_iff : Level d log.reverse ↔ Level d log := by
  rw [Level, Level, openings_log_reverse, closings_log_reverse]

/-- A log that passes from both its ends is level: from the one it does not open more than it
closes, and from the other it does not close more than it opens. -/
theorem level_of_check_reverse (h : check d log = .ok ())
    (hreverse : check d.reverse log.reverse = .ok ()) : Level d log := by
  have hle := (accepted_iff_check.mpr h).openings_le_closings
  have hge := (accepted_iff_check.mpr hreverse).closings_le_openings
  rw [openings_log_reverse, closings_log_reverse] at hge
  exact Nat.le_antisymm hle hge

/-- **A level log passes in one direction exactly when it passes in the other, read from its
end.** A log that is not level fails in one of the two ways. -/
theorem check_reverse (d : Direction) (log : List Record) :
    (Level d log → (check d log = .ok () ↔ check d.reverse log.reverse = .ok ())) ∧
      (¬Level d log → ¬(check d log = .ok () ∧ check d.reverse log.reverse = .ok ())) := by
  constructor
  · intro hlevel
    have hlevel' : Level d.reverse log.reverse :=
      level_reverse_iff.mpr (level_log_reverse_iff.mpr hlevel)
    calc check d log = .ok ()
      _ ↔ Balanced d log := by rw [balanced_iff_check, and_iff_left hlevel]
      _ ↔ Balanced d.reverse log.reverse := balanced_reverse_iff.symm
      _ ↔ check d.reverse log.reverse = .ok () := by
        rw [balanced_iff_check, and_iff_left hlevel']
  · rintro hlevel ⟨h, hreverse⟩
    exact hlevel (level_of_check_reverse h hreverse)

/-- Region 12 inside region 4 passes from both ends. Followed by the start of a region that is
still running it passes from one end only. -/
theorem check_reverse_nestedLog :
    Level .backward (Report.nestedLog.take 8) ∧
      check .forward (Report.nestedLog.take 8).reverse = .ok () ∧
      ¬Level .backward Report.nestedLog ∧
      check .backward Report.nestedLog = .ok () ∧
      check .forward Report.nestedLog.reverse ≠ .ok () := by
  have hlevel : Level .backward (Report.nestedLog.take 8) := by decide
  have hcheck : check .backward (Report.nestedLog.take 8) = .ok () := by cbv
  have hnotLevel : ¬Level .backward Report.nestedLog := by decide
  have hwhole : check .backward Report.nestedLog = .ok () := by cbv
  refine ⟨hlevel, ?_, hnotLevel, hwhole, fun hreverse => ?_⟩
  · exact ((check_reverse .backward _).1 hlevel).mp hcheck
  · exact (check_reverse .backward _).2 hnotLevel ⟨hwhole, hreverse⟩

/-! ### One log in both directions -/

/-- A balanced log starts with a neutral event, or with one that opens a region. -/
theorem Balanced.cons_cases {rest : List Record} (h : Balanced d (r :: rest)) :
    Neutral d r ∧ Balanced d rest ∨ ∃ region, Opens d region r := by
  cases h with
  | neutral hr hrest => exact Or.inl ⟨hr, hrest⟩
  | block ho => exact Or.inr ⟨_, ho⟩

/-- **A log that is balanced in both directions has neutral events only**: the first event
that opens a region in one of them can neither be passed over nor open one in the other. -/
theorem Balanced.neutral_of_reverse (h : Balanced d log) (hreverse : Balanced d.reverse log) :
    ∀ r ∈ log, Neutral d r := by
  induction h with
  | nil => exact fun r hr => absurd hr List.not_mem_nil
  | neutral hr _ ih =>
    rcases hreverse.cons_cases with ⟨-, hrest⟩ | ⟨region, ho⟩
    · exact List.forall_mem_cons.mpr ⟨hr, ih hrest⟩
    · exact absurd (opens_reverse_iff.mp ho).1 hr.2
  | block ho =>
    rcases hreverse.cons_cases with ⟨hr, -⟩ | ⟨region, ho'⟩
    · exact absurd ho.1 (neutral_reverse_iff.mp hr).1
    · exact absurd ho' (ho.not_opens_reverse region)

/-- **The logs that are accepted in both directions** are those without events of the
nesting. -/
theorem accepted_both_iff :
    Accepted d log ∧ Accepted d.reverse log ↔ ∀ r ∈ log, Neutral d r := by
  constructor
  · rintro ⟨h, hreverse⟩
    have hlevel : Level d log :=
      Nat.le_antisymm h.openings_le_closings hreverse.closings_le_openings
    have hlevel' : Level d.reverse log := level_reverse_iff.mpr hlevel
    exact (h.balanced hlevel).neutral_of_reverse (hreverse.balanced hlevel')
  · intro h
    have hreverse : ∀ r ∈ log, Neutral d.reverse r :=
      fun r hr => neutral_reverse_iff.mpr (h r hr)
    exact ⟨(balanced_of_neutral h).accepted, (balanced_of_neutral hreverse).accepted⟩

theorem exists_error_iff : (∃ v, check d log = .error v) ↔ check d log ≠ .ok () := by
  rcases check d log with v | ⟨⟩ <;> simp

/-- **A wrong direction does not go unnoticed**: a log passes in both directions exactly when
it has no start and no end of a region, and fails in one of them exactly when it has one. -/
theorem check_both_iff (log : List Record) :
    (check .backward log = .ok () ∧ check .forward log = .ok () ↔
      ∀ r ∈ log, r.kind ≠ .parallelStart ∧ r.kind ≠ .parallelEnd) ∧
    ((∃ d v, check d log = .error v) ↔
      ∃ r ∈ log, r.kind = .parallelStart ∨ r.kind = .parallelEnd) := by
  have hboth : check .backward log = .ok () ∧ check .forward log = .ok () ↔
      ∀ r ∈ log, r.kind ≠ .parallelStart ∧ r.kind ≠ .parallelEnd := by
    rw [← accepted_iff_check, ← accepted_iff_check]
    exact accepted_both_iff.trans (forall₂_congr fun r _ => and_comm)
  refine ⟨hboth, ?_⟩
  calc (∃ d v, check d log = .error v)
    _ ↔ ∃ d, check d log ≠ .ok () := exists_congr fun d => exists_error_iff
    _ ↔ ¬(check .backward log = .ok () ∧ check .forward log = .ok ()) := by
      rw [← not_forall, Direction.forall_iff]
    _ ↔ ∃ r ∈ log, r.kind = .parallelStart ∨ r.kind = .parallelEnd := by
      rw [hboth]
      push Not
      simp only [or_iff_not_imp_left]

end Regions

/-! ### Mirror images -/

/-- **The mirror image of a kind**: starts and ends of regions change places. -/
def Kind.mirror : Kind → Kind
  | .parallelStart => .parallelEnd
  | .parallelEnd => .parallelStart
  | k => k

/-- **The mirror image of a record**, with what it holds in its slots. -/
def Record.mirror (r : Record) : Record :=
  { r with kind := r.kind.mirror }

/-- **The mirror image of a violation** is the same violation of the mirror image of a log. -/
def Violation.mirror : Violation → Violation
  | .duplicate r firstIndex index => .duplicate r.mirror firstIndex index
  | .missingRegion r index => .missingRegion r.mirror index
  | .regionMismatch innermost closed index => .regionMismatch innermost closed index
  | .unclosedRegions regions d => .unclosedRegions regions d.reverse
  | .branchCounts region starts ends => .branchCounts region starts ends
  | .branchSideMissing region missing => .branchSideMissing region missing

@[simp] theorem Record.kind_mirror (r : Record) : r.mirror.kind = r.kind.mirror := rfl

@[simp] theorem Kind.isParallel_mirror (k : Kind) : k.mirror.isParallel = k.isParallel := by
  cases k <;> rfl

@[simp] theorem Record.region_mirror (r : Record) : r.mirror.region = r.region := by
  rw [region, region, kind_mirror, Kind.isParallel_mirror]
  rfl

/-- **The mirror image of an event plays the same role** in the opposite direction. -/
@[simp] theorem Direction.role_mirror (d : Direction) (k : Kind) :
    d.reverse.role k.mirror = d.role k := by
  cases d <;> cases k <;> rfl

namespace Regions

variable {d : Direction}

theorem step_mirror (pending : List NodeId) (index : Nat) (r : Record) :
    step d.reverse pending index r.mirror = (step d pending index r).mapError .mirror :=
  step_eq_mapError (d.role_mirror r.kind) r.region_mirror rfl (fun _ _ => rfl) pending

/-- **The walks over a log and over its mirror image** go the same way. -/
theorem scan_mirror (pending : List NodeId) (index : Nat) (log : List Record) :
    scan d.reverse pending index (log.map .mirror) =
      (scan d pending index log).mapError .mirror := by
  induction log generalizing pending index with
  | nil => rfl
  | cons r log ih =>
    rw [List.map_cons, scan, scan, step_mirror]
    rcases step d pending index r with v | next
    · rfl
    · exact ih next (index + 1)

theorem verdict_mirror (pending : List NodeId) :
    verdict d.reverse pending = (verdict d pending).mapError .mirror := by
  cases pending <;> rfl

/-- **The two directions are mirror images of each other**: of the mirror image of a log, the
check says in the opposite direction what it says of the log, about the same regions and at
the same position. -/
theorem check_mirror (d : Direction) (log : List Record) :
    check d.reverse (log.map .mirror) = (check d log).mapError .mirror :=
  check_eq_mapError (scan_mirror [] 0 log) verdict_mirror

end Regions

end ScanAudit
