import ScanAudit.Proofs.Truncation

/-!
# Level blocks

A log is *level* when it has as many opening as closing events, whatever regions they name
(`ScanAudit.Regions.Level`). Counting alone says little about nesting. But an accepted log
never opens more than it closes, and each time it closes something that it has not opened it
gets one closing event ahead for good. So an accepted log that is level has closed nothing
from outside, and is balanced (`ScanAudit.Regions.balanced_iff`).

That matters because the check meets a log from nothing pending, while a block of a larger
log is met with some regions pending. From there an accepted block may behave differently,
for what it closes from outside is then compared; a balanced one may not. So a level block
that passes on its own can be put anywhere into any log
(`ScanAudit.Regions.check_insert`), and all it changes is the positions of what comes after it
(`ScanAudit.Violation.shift`).
-/

namespace ScanAudit

/-! ### Positions after an insertion -/

/-- **A position after an insertion** of `n` records at position `start`: it moves if it does
not come before them. -/
def shifted (start n index : Nat) : Nat :=
  if start ≤ index then index + n else index

theorem shifted_of_le {start index : Nat} (h : start ≤ index) (n : Nat) :
    shifted start n index = index + n := by
  rw [shifted, if_pos h]

theorem shifted_of_lt {start index : Nat} (h : index < start) (n : Nat) :
    shifted start n index = index := by
  rw [shifted, if_neg (by omega)]

/-- **A violation after an insertion** of `n` records at position `start`: it is about the
same records, wherever they stand now. -/
def Violation.shift (start n : Nat) : Violation → Violation
  | .duplicate r firstIndex index =>
    .duplicate r (shifted start n firstIndex) (shifted start n index)
  | .missingRegion r index => .missingRegion r (shifted start n index)
  | .regionMismatch innermost closed index =>
    .regionMismatch innermost closed (shifted start n index)
  | .unclosedRegions regions d => .unclosedRegions regions d
  | .branchCounts region starts ends => .branchCounts region starts ends
  | .branchSideMissing region missing => .branchSideMissing region missing

namespace Regions

variable {d : Direction}

/-! ### Counting openings and closings -/

/-- How many events of a log open a region, or should. -/
def openings (d : Direction) (log : List Record) : Nat :=
  log.countP fun r => r.kind = d.openKind

/-- How many events of a log close a region, or should. -/
def closings (d : Direction) (log : List Record) : Nat :=
  log.countP fun r => r.kind = d.closeKind

/-- **A level log** has as many opening as closing events. -/
def Level (d : Direction) (log : List Record) : Prop :=
  openings d log = closings d log

instance (log : List Record) : Decidable (Level d log) :=
  inferInstanceAs (Decidable (_ = _))

@[simp] theorem openings_nil : openings d [] = 0 := rfl

@[simp] theorem closings_nil : closings d [] = 0 := rfl

@[simp] theorem openings_append (a b : List Record) :
    openings d (a ++ b) = openings d a + openings d b :=
  List.countP_append

@[simp] theorem closings_append (a b : List Record) :
    closings d (a ++ b) = closings d a + closings d b :=
  List.countP_append

theorem Neutral.counts {r : Record} (h : Neutral d r) (log : List Record) :
    openings d (r :: log) = openings d log ∧ closings d (r :: log) = closings d log := by
  simp [openings, closings, h.1, h.2]

theorem Opens.counts {region : NodeId} {o : Record} (h : Opens d region o) (log : List Record) :
    openings d (o :: log) = openings d log + 1 ∧ closings d (o :: log) = closings d log := by
  simp [openings, closings, h.1, d.openKind_ne_closeKind]

theorem Closes.counts {region : NodeId} {c : Record} (h : Closes d region c)
    (log : List Record) :
    openings d (c :: log) = openings d log ∧ closings d (c :: log) = closings d log + 1 := by
  simp [openings, closings, h.1, d.openKind_ne_closeKind.symm]

/-- A region with what is inside it has one opening and one closing of its own. -/
theorem block_counts {region : NodeId} {o c : Record} (ho : Opens d region o)
    (hc : Closes d region c) (inner rest : List Record) :
    openings d (o :: (inner ++ c :: rest)) = openings d inner + openings d rest + 1 ∧
      closings d (o :: (inner ++ c :: rest)) = closings d inner + closings d rest + 1 := by
  have hopen := ho.counts (inner ++ c :: rest)
  have hclose := hc.counts rest
  rw [openings_append, closings_append] at hopen
  omega

/-- **A balanced log is level.** -/
theorem Balanced.level {log : List Record} (h : Balanced d log) : Level d log := by
  rw [Level]
  induction h with
  | nil => rfl
  | @neutral _ rest hr _ ih =>
    have hcounts := hr.counts rest
    omega
  | @block _ _ _ inner rest ho _ hc _ ihInner ihRest =>
    have hcounts := block_counts ho hc inner rest
    omega

/-- **An accepted log opens no more than it closes.** -/
theorem Accepted.openings_le_closings {log : List Record} (h : Accepted d log) :
    openings d log ≤ closings d log := by
  induction h with
  | nil => exact Nat.le_refl 0
  | @neutral _ rest hr _ ih =>
    have hcounts := hr.counts rest
    omega
  | @close _ _ rest hc _ ih =>
    have hcounts := hc.counts rest
    omega
  | @block _ _ _ inner rest ho hinner hc _ ih =>
    have hcounts := block_counts ho hc inner rest
    have hlevel : openings d inner = closings d inner := hinner.level
    omega

/-- A level log that is accepted closes nothing from outside: an event that did would put the
closings ahead for good. -/
theorem Accepted.balanced {log : List Record} (h : Accepted d log) (hlevel : Level d log) :
    Balanced d log := by
  rw [Level] at hlevel
  induction h with
  | nil => exact .nil
  | @neutral _ rest hr _ ih =>
    have hcounts := hr.counts rest
    exact .neutral hr (ih (by omega))
  | @close _ _ rest hc hrest _ =>
    -- this cannot be: the rest would have to open more than it closes
    have hcounts := hc.counts rest
    have hle := hrest.openings_le_closings
    omega
  | @block _ _ _ inner rest ho hinner hc _ ih =>
    have hcounts := block_counts ho hc inner rest
    have hinnerLevel : openings d inner = closings d inner := hinner.level
    exact .block ho hinner hc (ih (by omega))

/-- **The balanced logs are the level logs among the accepted ones.** -/
theorem balanced_iff {log : List Record} : Balanced d log ↔ Accepted d log ∧ Level d log :=
  ⟨fun h => ⟨h.accepted, h.level⟩, fun h => h.1.balanced h.2⟩

theorem accepted_iff_check {log : List Record} : Accepted d log ↔ check d log = .ok () := by
  rw [← viable_nil_iff, check_eq_ok_iff_viable]

theorem balanced_iff_check {log : List Record} :
    Balanced d log ↔ check d log = .ok () ∧ Level d log := by
  rw [balanced_iff, accepted_iff_check]

/-- Neutral events alone are balanced. -/
theorem balanced_of_neutral {log : List Record} (h : ∀ r ∈ log, Neutral d r) :
    Balanced d log := by
  induction log with
  | nil => exact .nil
  | cons r rest ih =>
    rw [List.forall_mem_cons] at h
    exact .neutral h.1 (ih h.2)

/-! ### The walk at other positions -/

/-- What an event does to the nesting does not depend on its position, which only shows in
what is said about it. -/
theorem step_shift {start index : Nat} (h : start ≤ index) (pending : List NodeId) (n : Nat)
    (r : Record) :
    step d pending (index + n) r = (step d pending index r).mapError (.shift start n) := by
  refine step_eq_mapError rfl rfl ?_ (fun innermost closed => ?_) pending
  · rw [Violation.shift, shifted_of_le h]
  · rw [Violation.shift, shifted_of_le h]

/-- **A walk that starts at a later position** goes the same way. -/
theorem scan_shift {start index : Nat} (h : start ≤ index) (pending : List NodeId) (n : Nat)
    (log : List Record) :
    scan d pending (index + n) log = (scan d pending index log).mapError (.shift start n) := by
  induction log generalizing pending index with
  | nil => rfl
  | cons r log ih =>
    rw [scan, scan, step_shift h]
    rcases step d pending index r with v | next
    · rfl
    · simp only [Except.mapError, Nat.add_right_comm index n 1]
      exact ih (by omega) next

/-- A walk that fails before a position says nothing about positions from there on. -/
theorem shift_of_scan_eq_error {pending : List NodeId} {index start : Nat} {log : List Record}
    {v : Violation} (h : scan d pending index log = .error v) (hstart : index + log.length ≤ start)
    (n : Nat) : v.shift start n = v := by
  obtain ⟨before, r, after, middle, rfl, -, hr⟩ := scan_eq_error_iff.mp h
  have hlt : index + before.length < start := by
    rw [List.length_append, List.length_cons] at hstart
    omega
  rcases step_eq_error_iff.mp hr with ⟨-, rfl⟩ | ⟨_, _, _, -, -, -, rfl⟩ <;>
    simp only [Violation.shift, shifted_of_lt hlt]

/-- What is said about regions left open holds no position. -/
theorem verdict_shift (pending : List NodeId) (start n : Nat) :
    verdict d pending = (verdict d pending).mapError (.shift start n) := by
  cases pending <;> rfl

/-! ### Balanced blocks -/

/-- **A balanced block does not turn a walk aside**, wherever the walk meets it. -/
theorem scan_insert {block : List Record} (h : Balanced d block) (pending : List NodeId)
    (index : Nat) (pre post : List Record) :
    scan d pending index (pre ++ block ++ post) =
      (scan d pending index (pre ++ post)).mapError
        (.shift (index + pre.length) block.length) := by
  rw [List.append_assoc, scan_append, scan_append]
  rcases hpre : scan d pending index pre with v | middle
  · -- the walk ends before the block
    have hv := shift_of_scan_eq_error hpre (Nat.le_refl _) block.length
    simp only [Except.mapError, hv]
  · simp only [scan_append, scan_of_balanced h]
    exact scan_shift (Nat.le_refl _) middle block.length post

/-- The check says the same about a log with a balanced block in it, at shifted positions. -/
theorem check_insert {block : List Record} (h : Balanced d block) (pre post : List Record) :
    check d (pre ++ block ++ post) =
      (check d (pre ++ post)).mapError (.shift pre.length block.length) := by
  have hscan := scan_insert h [] 0 pre post
  rw [Nat.zero_add] at hscan
  exact check_eq_mapError hscan fun pending => verdict_shift pending _ _

theorem check_insert_eq_ok_iff {block : List Record} (h : Balanced d block)
    (pre post : List Record) :
    check d (pre ++ block ++ post) = .ok () ↔ check d (pre ++ post) = .ok () := by
  rw [check_insert h]
  rcases check d (pre ++ post) with v | ⟨⟩ <;> simp [Except.mapError]

/-- **A level block that passes can be put anywhere** into any log: the check says the same
about the log as without the block, except that positions from the block on move by its
length. Such blocks are, for instance, the lists of neutral events and the regions around a
block of this sort. -/
theorem check_insert_level (d : Direction) :
    (∀ block, check d block = .ok () → Level d block → ∀ pre post,
      check d (pre ++ block ++ post) =
        (check d (pre ++ post)).mapError (.shift pre.length block.length)) ∧
    (∀ block, (∀ r ∈ block, Neutral d r) → check d block = .ok () ∧ Level d block) ∧
    ∀ region o inner c, Opens d region o → check d inner = .ok () → Level d inner →
      Closes d region c →
        check d (o :: (inner ++ [c])) = .ok () ∧ Level d (o :: (inner ++ [c])) := by
  refine ⟨?_, ?_, ?_⟩
  · intro block hcheck hlevel pre post
    exact check_insert (balanced_iff_check.mpr ⟨hcheck, hlevel⟩) pre post
  · intro block hneutral
    exact balanced_iff_check.mp (balanced_of_neutral hneutral)
  · intro region o inner c ho hcheck hlevel hc
    have hinner : Balanced d inner := balanced_iff_check.mpr ⟨hcheck, hlevel⟩
    exact balanced_iff_check.mp (.block ho hinner hc .nil)

/-- The whole of region 12 once more, inside region 12 of a log that lacks the start of that
region: the start of region 4, which comes too early there, is reported four positions
later. -/
theorem check_insert_nested_region :
    let block := (Report.nestedLog.drop 2).take 4
    check .backward block = .ok () ∧ Level .backward block ∧
      check .backward (Report.nestedLog.take 3 ++ block ++ Report.nestedLog.drop 6) =
        .error (.regionMismatch ⟨12, by decide⟩ ⟨4, by decide⟩ 8) := by
  intro block
  have hcheck : check .backward block = .ok () := by cbv
  have hlevel : Level .backward block := by decide
  have hcrossed : check .backward (Report.nestedLog.take 3 ++ Report.nestedLog.drop 6) =
      .error (.regionMismatch ⟨12, by decide⟩ ⟨4, by decide⟩ 4) := by cbv
  refine ⟨hcheck, hlevel, ?_⟩
  rw [(check_insert_level .backward).1 block hcheck hlevel, hcrossed]
  rfl

end Regions

end ScanAudit
