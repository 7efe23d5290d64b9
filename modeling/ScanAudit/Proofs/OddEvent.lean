import ScanAudit.Proofs.LevelBlocks

/-!
# One event too few or too many

A log that passes, with one branch event left out or with one event told again. What the
checks say about it can be told from the event alone.

* The balance of regions has nothing to do with it unless the event opens or closes a region:
  any other event is a balanced block of its own.
* All regions but that of the event have as many branch starts as branch ends, as before. So
  the symmetry check, which looks at many regions and reports one, reports this one, whatever
  its place among them (`ScanAudit.Branches.check_of_imbalance`).
* An event that is told again is the first repeat, for the records before it are all
  different (`ScanAudit.Duplicates.check_of_copy`). A log with one event less repeats nothing.
-/

namespace ScanAudit

namespace Duplicates

/-- **A record told again** after different records is reported with the one position at
which it came before. -/
theorem check_of_copy {before : List Record} {r : Record} {first : Nat} (h : before.Nodup)
    (hget : before[first]? = some r) (after : List Record) :
    check (before ++ r :: after) = .error (.duplicate r first before.length) := by
  have hseen : ([] ++ before).Nodup := h
  have hwalk : check (before ++ r :: after) = scan before (r :: after) :=
    scan_append_of_nodup hseen (r :: after)
  rw [hwalk, scan_cons_of_seen h hget]

end Duplicates

/-! ### Nesting -/

namespace Regions

variable {d : Direction} {r : Record}

theorem neutral_of_branch {side : BranchSide} (h : r.kind = Branches.kindOf side) :
    Neutral d r := by
  rw [Neutral, h]
  cases d <;> cases side <;> decide

/-- The kinds that are not about a region do nothing to the nesting. -/
theorem neutral_of_plain (h : r.kind = .atom ∨ r.kind = .chunkStart ∨ r.kind = .chunkEnd) :
    Neutral d r := by
  rw [Neutral]
  rcases h with h | h | h <;> rw [h] <;> cases d <;> decide

/-- A neutral event makes no difference to the balance of a log. -/
theorem check_insert_neutral (h : Neutral d r) (before after : List Record) :
    check d (before ++ r :: after) = .ok () ↔ check d (before ++ after) = .ok () := by
  have hblock : Balanced d [r] := .neutral h .nil
  have hinsert := check_insert_eq_ok_iff hblock before after
  rwa [List.append_assoc] at hinsert

end Regions

/-! ### Branches -/

namespace Branches

variable {before after : List Record} {r : Record} {region : NodeId} {side : BranchSide}

/-- **What is said about a region with unequal numbers** of branch starts and branch ends,
when it is the only one. -/
def imbalance (region : NodeId) (starts ends : Nat) : Violation :=
  if ends = 0 then .branchSideMissing region .finish
  else if starts = 0 then .branchSideMissing region .start
  else .branchCounts region starts ends

/-- Where neither side of a region is empty, the numbers are told. -/
theorem imbalance_of_pos {starts ends : Nat} (hstarts : 0 < starts) (hends : 0 < ends) :
    imbalance region starts ends = .branchCounts region starts ends := by
  rw [imbalance, if_neg (by omega), if_neg (by omega)]

/-- What is said about a region of `n` branches when one event is missing on a side. -/
def oneShort (region : NodeId) (n : Nat) : BranchSide → Violation
  | .start => imbalance region (n - 1) n
  | .finish => imbalance region n (n - 1)

/-- What is said about a region of `n` branches when a side has one event more. -/
def oneAhead (region : NodeId) (n : Nat) : BranchSide → Violation
  | .start => imbalance region (n + 1) n
  | .finish => imbalance region n (n + 1)

/-- The only event of a side leaves nothing there. -/
theorem oneShort_one (region : NodeId) (side : BranchSide) :
    oneShort region 1 side = .branchSideMissing region side := by
  cases side <;> rfl

theorem oneShort_of_two_le {n : Nat} (h : 2 ≤ n) :
    oneShort region n .start = .branchCounts region (n - 1) n ∧
      oneShort region n .finish = .branchCounts region n (n - 1) :=
  ⟨imbalance_of_pos (by omega) (by omega), imbalance_of_pos (by omega) (by omega)⟩

theorem oneAhead_of_pos {n : Nat} (h : 1 ≤ n) :
    oneAhead region n .start = .branchCounts region (n + 1) n ∧
      oneAhead region n .finish = .branchCounts region n (n + 1) :=
  ⟨imbalance_of_pos (by omega) h, imbalance_of_pos h (by omega)⟩

/-- **A region that is alone out of balance is reported**, whatever its number. -/
theorem check_of_imbalance {log : List Record} {starts ends : Nat}
    (hnamed : ∀ r ∈ log, ¬Orphan r) (hstarts : countOf .branchStart region log = starts)
    (hends : countOf .branchEnd region log = ends) (hne : starts ≠ ends)
    (hothers : ∀ p, p ≠ region → countOf .branchStart p log = countOf .branchEnd p log) :
    check log = .error (imbalance region starts ends) := by
  have hunequal : ∀ p, Unequal log p → p = region := by
    intro p hp
    by_contra hother
    exact hp.2 (hothers p hother)
  rw [imbalance]
  by_cases hzero : starts = 0
  · -- the region has branch ends only, and its turn comes when no other is to blame
    have hnone : ∀ p, ¬Unequal log p := by
      intro p hp
      obtain rfl := hunequal p hp
      have hpos := hp.1
      omega
    have hleast : Least (Startless log) region := by
      refine ⟨⟨by omega, by omega⟩, ?_⟩
      intro p hp
      by_contra hless
      have hother := hothers p (by rintro rfl; exact hless (Nat.le_refl _))
      have hstartless := hp.1
      have hpos := hp.2
      omega
    rw [check_of_startless hnamed hnone hleast, if_neg (by omega), if_pos hzero]
  · have hleast : Least (Unequal log) region := by
      refine ⟨⟨by omega, by omega⟩, ?_⟩
      intro p hp
      rw [hunequal p hp]
    rw [check_of_unequal hnamed hleast, hstarts, hends, if_neg hzero]

/-- In a symmetric log that has some branch event for a region, both sides of the region have
the same number of events, which is not zero. -/
theorem exists_count {log : List Record} (h : check log = .ok ()) (hmem : r ∈ log)
    (hk : r.kind = kindOf side) (hr : r.region = some region) :
    ∃ n, countOf .branchStart region log = n ∧ countOf .branchEnd region log = n ∧ 1 ≤ n := by
  have hequal := (check_eq_ok_iff.mp h).2 region
  have hpos : 0 < countOf (kindOf side) region log :=
    List.countP_pos_iff.mpr ⟨r, hmem, by simp [hk, hr]⟩
  refine ⟨_, rfl, hequal.symm, ?_⟩
  cases side with
  | start => exact hpos
  | finish => exact hequal ▸ hpos

/-! ### One event more, and one less -/

/-- An event counts once, wherever it stands. -/
theorem countOf_insert (k : Kind) (p : NodeId) (before after : List Record) (r : Record) :
    countOf k p (before ++ r :: after) =
      countOf k p (before ++ after) + if r.kind = k ∧ r.region = some p then 1 else 0 := by
  rw [countOf_append, countOf_append, countOf_cons]
  omega

theorem not_orphan_insert_iff :
    (∀ q ∈ before ++ r :: after, ¬Orphan q) ↔ ¬Orphan r ∧ ∀ q ∈ before ++ after, ¬Orphan q := by
  simp only [List.forall_mem_append, List.forall_mem_cons]
  tauto

/-- **What a branch event adds**: one to the count of its side, for its region. -/
theorem countOf_insert_branch (hk : r.kind = kindOf side) (hr : r.region = some region)
    (before after : List Record) (side' : BranchSide) :
    countOf (kindOf side') region (before ++ r :: after) =
      countOf (kindOf side') region (before ++ after) + if side = side' then 1 else 0 := by
  rw [countOf_insert, hk, hr]
  simp only [kindOf_inj, and_true]

/-- Other regions have equal numbers with the event when they have so without it. -/
theorem symmetric_insert_iff (hr : r.region = some region) {p : NodeId} (hp : p ≠ region)
    (before after : List Record) :
    countOf .branchStart p (before ++ r :: after) = countOf .branchEnd p (before ++ r :: after) ↔
      countOf .branchStart p (before ++ after) = countOf .branchEnd p (before ++ after) := by
  have hother : r.region ≠ some p := by
    rw [hr, Ne, Option.some.injEq]
    exact hp.symm
  rw [countOf_insert, countOf_insert, if_neg fun hc => hother hc.2, if_neg fun hc => hother hc.2,
    Nat.add_zero, Nat.add_zero]

/-- **One branch event less** in a symmetric log leaves its side one short. -/
theorem check_of_lost {n : Nat} (h : check (before ++ r :: after) = .ok ())
    (hk : r.kind = kindOf side) (hr : r.region = some region)
    (hn : countOf .branchStart region (before ++ r :: after) = n) :
    check (before ++ after) = .error (oneShort region n side) := by
  obtain ⟨hnamed, hcounts⟩ := check_eq_ok_iff.mp h
  have hnamed := (not_orphan_insert_iff.mp hnamed).2
  have hothers := fun p (hp : p ≠ region) =>
    (symmetric_insert_iff hr hp before after).mp (hcounts p)
  -- the numbers of the region, with the event and without it
  have hstarts := countOf_insert_branch hk hr before after .start
  have hends := countOf_insert_branch hk hr before after .finish
  rw [kindOf, hn] at hstarts
  rw [kindOf, ← hcounts region, hn] at hends
  cases side with
  | start =>
    simp only [reduceCtorEq, ↓reduceIte] at hstarts hends
    exact check_of_imbalance hnamed (by omega) hends.symm (by omega) hothers
  | finish =>
    simp only [reduceCtorEq, ↓reduceIte] at hstarts hends
    exact check_of_imbalance hnamed hstarts.symm (by omega) (by omega) hothers

/-- **One branch event more** in a symmetric log puts its side one ahead. -/
theorem check_of_extra {n : Nat} (h : check (before ++ after) = .ok ())
    (hk : r.kind = kindOf side) (hr : r.region = some region)
    (hn : countOf .branchStart region (before ++ after) = n) :
    check (before ++ r :: after) = .error (oneAhead region n side) := by
  obtain ⟨hnamed, hcounts⟩ := check_eq_ok_iff.mp h
  have hnamed : ∀ q ∈ before ++ r :: after, ¬Orphan q := by
    refine not_orphan_insert_iff.mpr ⟨?_, hnamed⟩
    rintro ⟨-, hnone⟩
    rw [hr] at hnone
    exact absurd hnone (by simp)
  have hothers := fun p (hp : p ≠ region) =>
    (symmetric_insert_iff hr hp before after).mpr (hcounts p)
  have hstarts := countOf_insert_branch hk hr before after .start
  have hends := countOf_insert_branch hk hr before after .finish
  rw [kindOf, hn] at hstarts
  rw [kindOf, ← hcounts region, hn] at hends
  cases side with
  | start => exact check_of_imbalance hnamed hstarts hends (by omega) hothers
  | finish => exact check_of_imbalance hnamed hstarts hends (by omega) hothers

/-- An event that is not about a region makes no difference to the symmetry of a log. -/
theorem check_insert_plain (h : r.kind = .atom ∨ r.kind = .chunkStart ∨ r.kind = .chunkEnd)
    (hcheck : check (before ++ after) = .ok ()) : check (before ++ r :: after) = .ok () := by
  obtain ⟨hnamed, hcounts⟩ := check_eq_ok_iff.mp hcheck
  have hstart : r.kind ≠ .branchStart := by rcases h with h | h | h <;> rw [h] <;> decide
  have hend : r.kind ≠ .branchEnd := by rcases h with h | h | h <;> rw [h] <;> decide
  refine check_eq_ok_iff.mpr ⟨not_orphan_insert_iff.mpr ⟨?_, hnamed⟩, ?_⟩
  · rintro ⟨hk | hk, -⟩
    · exact hstart hk
    · exact hend hk
  · intro p
    rw [countOf_insert, countOf_insert, if_neg fun hc => hstart hc.1,
      if_neg fun hc => hend hc.1, hcounts p]

end Branches

/-! ### Reports -/

/-- A record put in between two parts of a log. -/
theorem insertIdx_between (before after : List Record) (r : Record) :
    (before ++ after).insertIdx before.length r = before ++ r :: after := by
  induction before with
  | nil => rfl
  | cons q before ih => exact congrArg (q :: ·) ih

namespace Report

variable {d : Direction} {before after : List Record} {r : Record} {region : NodeId}
  {side : BranchSide} {first : Nat}

/-- **The report on a log that has lost a branch event** is about branches only. -/
theorem failures_audit_of_lost (h : (audit d (before ++ r :: after)).failures = [])
    (hk : r.kind = Branches.kindOf side) {v : Violation}
    (hlost : Branches.check (before ++ after) = .error v) :
    (audit d (before ++ after)).failures = [v] := by
  obtain ⟨hduplicates, hregions, -⟩ := failures_audit_eq_nil_iff.mp h
  have hduplicates : Duplicates.check (before ++ after) = .ok () := by
    rw [Duplicates.check_eq_ok_iff_nodup] at hduplicates ⊢
    exact hduplicates.sublist ((List.sublist_cons_self r after).append_left before)
  have hregions : Regions.check d (before ++ after) = .ok () :=
    (Regions.check_insert_neutral (Regions.neutral_of_branch hk) before after).mp hregions
  have hviolation : Check.branchSymmetry.violation? d (before ++ after) = some v :=
    Check.violation?_eq_some_iff.mpr hlost
  rw [failures_audit_of_checks hduplicates hregions, hviolation]
  rfl

/-- **The report on a log that tells an event again** starts with that. -/
theorem failures_audit_of_copy (h : (audit d (before ++ after)).failures = [])
    (hget : before[first]? = some r) :
    (audit d (before ++ r :: after)).failures =
      .duplicate r first before.length ::
        ((Check.regionBalance.violation? d (before ++ r :: after)).toList ++
          (Check.branchSymmetry.violation? d (before ++ r :: after)).toList) := by
  obtain ⟨hduplicates, -, -⟩ := failures_audit_eq_nil_iff.mp h
  rw [Duplicates.check_eq_ok_iff_nodup] at hduplicates
  have hviolation : Check.duplicates.violation? d (before ++ r :: after) =
      some (.duplicate r first before.length) :=
    Check.violation?_eq_some_iff.mpr
      (Duplicates.check_of_copy (List.nodup_append.mp hduplicates).1 hget after)
  rw [failures_audit_eq, hviolation]
  rfl

/-- A neutral event told again is no matter of the balance of regions. -/
theorem failures_audit_of_neutral_copy (h : (audit d (before ++ after)).failures = [])
    (hget : before[first]? = some r) (hneutral : Regions.Neutral d r) :
    (audit d (before ++ r :: after)).failures =
      .duplicate r first before.length ::
        (Check.branchSymmetry.violation? d (before ++ r :: after)).toList := by
  obtain ⟨-, hregions, -⟩ := failures_audit_eq_nil_iff.mp h
  have hnone : Check.regionBalance.violation? d (before ++ r :: after) = none :=
    Check.violation?_eq_none_iff.mpr
      ((Regions.check_insert_neutral hneutral before after).mpr hregions)
  rw [failures_audit_of_copy h hget, hnone]
  rfl

theorem failures_audit_of_plain_copy (h : (audit d (before ++ after)).failures = [])
    (hget : before[first]? = some r)
    (hplain : r.kind = .atom ∨ r.kind = .chunkStart ∨ r.kind = .chunkEnd) :
    (audit d (before ++ r :: after)).failures = [.duplicate r first before.length] := by
  obtain ⟨-, -, hbranches⟩ := failures_audit_eq_nil_iff.mp h
  have hnone : Check.branchSymmetry.violation? d (before ++ r :: after) = none :=
    Check.violation?_eq_none_iff.mpr (Branches.check_insert_plain hplain hbranches)
  rw [failures_audit_of_neutral_copy h hget (Regions.neutral_of_plain hplain), hnone]
  rfl

/-- **A branch event told again** puts its side one ahead, and the report says so. -/
theorem failures_audit_of_branch_copy (h : (audit d (before ++ after)).failures = [])
    (hget : before[first]? = some r) (hk : r.kind = Branches.kindOf side)
    (hr : r.region = some region) :
    ∃ n, Branches.countOf .branchStart region (before ++ after) = n ∧
      Branches.countOf .branchEnd region (before ++ after) = n ∧
      1 ≤ n ∧ (audit d (before ++ r :: after)).failures =
        [.duplicate r first before.length, Branches.oneAhead region n side] := by
  obtain ⟨-, -, hbranches⟩ := failures_audit_eq_nil_iff.mp h
  have hmem : r ∈ before ++ after := List.mem_append_left after (List.mem_of_getElem? hget)
  obtain ⟨n, hstarts, hends, hpos⟩ := Branches.exists_count hbranches hmem hk hr
  have hextra : Check.branchSymmetry.run d (before ++ r :: after) = _ :=
    Branches.check_of_extra hbranches hk hr hstarts
  refine ⟨n, hstarts, hends, hpos, ?_⟩
  rw [failures_audit_of_neutral_copy h hget (Regions.neutral_of_branch hk),
    Check.violation?_eq_some_iff.mpr hextra]
  rfl

/-- **A lost branch event is reported, for its region and nothing else.** A log that passes
has as many branch starts as branch ends for the region, at least one of each; without one of
these events the report has one failure, which says that the side has one less, or that it
has none. -/
theorem audit_eraseIdx_branch (d : Direction) (log : List Record)
    (h : (audit d log).passed = true) (index : Nat) (r : Record) (region : NodeId)
    (side : BranchSide) (hget : log[index]? = some r) (hk : r.kind = Branches.kindOf side)
    (hr : r.region = some region) :
    ∃ n, Branches.countOf .branchStart region log = n ∧
      Branches.countOf .branchEnd region log = n ∧ 1 ≤ n ∧
      (n = 1 → (audit d (log.eraseIdx index)).failures = [.branchSideMissing region side]) ∧
      (2 ≤ n → side = .start →
        (audit d (log.eraseIdx index)).failures = [.branchCounts region (n - 1) n]) ∧
      (2 ≤ n → side = .finish →
        (audit d (log.eraseIdx index)).failures = [.branchCounts region n (n - 1)]) := by
  rw [passed_iff] at h
  have hbranches := (failures_audit_eq_nil_iff.mp h).2.2
  obtain ⟨n, hstarts, hends, hpos⟩ :=
    Branches.exists_count hbranches (List.mem_of_getElem? hget) hk hr
  obtain ⟨hsplit, -⟩ := Regions.split_at_of_getElem? hget
  have hstarts' := hstarts
  rw [hsplit] at h hbranches hstarts'
  have hlost := Branches.check_of_lost hbranches hk hr hstarts'
  have hfailures := failures_audit_of_lost h hk hlost
  rw [← List.eraseIdx_eq_take_drop_succ] at hfailures
  rw [hfailures]
  refine ⟨n, hstarts, hends, hpos, ?_, ?_, ?_⟩
  · rintro rfl
    rw [Branches.oneShort_one]
  · rintro htwo rfl
    rw [(Branches.oneShort_of_two_le htwo).1]
  · rintro htwo rfl
    rw [(Branches.oneShort_of_two_le htwo).2]

/-- Region 4 has a second branch, after the one around region 12, and the end of it is
lost. -/
theorem audit_nestedLog_without_branchEnd :
    let log := nestedLog.take 7 ++ [.branchEnd ⟨4, by decide⟩ ⟨9, by decide⟩,
      .branchStart ⟨4, by decide⟩ ⟨8, by decide⟩] ++ nestedLog.drop 7
    (audit .backward log).passed = true ∧
      (audit .backward (log.eraseIdx 7)).failures = [.branchCounts ⟨4, by decide⟩ 2 1] := by
  intro log
  have hpassed : (audit .backward log).passed = true := by cbv
  obtain ⟨n, hstarts, -, -, -, -, hends⟩ := audit_eraseIdx_branch .backward log hpassed 7 _
    ⟨4, by decide⟩ .finish rfl rfl rfl
  have htwo : Branches.countOf .branchStart ⟨4, by decide⟩ log = 2 := by cbv
  obtain rfl : 2 = n := htwo.symm.trans hstarts
  exact ⟨hpassed, hends (Nat.le_refl 2) rfl⟩

/-- **An event told again is reported, with both its positions.** If it is not about a
region, that is all; if it is about a branch, the report goes on to say that its side has one
more for the region, and ends there. -/
theorem audit_insertIdx_copy (d : Direction) (log : List Record)
    (h : (audit d log).passed = true) (first index : Nat) (r : Record)
    (hget : log[first]? = some r) (hlt : first < index) (hle : index ≤ log.length) :
    let report := audit d (log.insertIdx index r)
    report.failures.head? = some (.duplicate r first index) ∧
      report.outcome = .error (.duplicate r first index) ∧
      (r.kind = .atom ∨ r.kind = .chunkStart ∨ r.kind = .chunkEnd →
        report.failures = [.duplicate r first index]) ∧
      ∀ side region, r.kind = Branches.kindOf side → r.region = some region →
        ∃ n, Branches.countOf .branchStart region log = n ∧
          Branches.countOf .branchEnd region log = n ∧
          (side = .start →
            report.failures = [.duplicate r first index, .branchCounts region (n + 1) n]) ∧
          (side = .finish →
            report.failures = [.duplicate r first index, .branchCounts region n (n + 1)]) := by
  intro report
  -- the log in two parts, with the event to come between them
  have hlength : (log.take index).length = index := by
    rw [List.length_take]
    omega
  have hinsert := insertIdx_between (log.take index) (log.drop index) r
  rw [List.take_append_drop, hlength] at hinsert
  have hfirst : (log.take index)[first]? = some r := by rw [List.getElem?_take_of_lt hlt, hget]
  rw [passed_iff, ← List.take_append_drop index log] at h
  have hcopy := failures_audit_of_copy h hfirst
  rw [← hinsert, hlength] at hcopy
  refine ⟨?_, ?_, ?_, ?_⟩
  · rw [hcopy]
    rfl
  · rw [outcome, hcopy]
  · intro hplain
    have hfailures := failures_audit_of_plain_copy h hfirst hplain
    rwa [← hinsert, hlength] at hfailures
  · intro side region hk hr
    obtain ⟨n, hstarts, hends, hpos, hfailures⟩ :=
      failures_audit_of_branch_copy h hfirst hk hr
    rw [List.take_append_drop] at hstarts hends
    rw [← hinsert, hlength] at hfailures
    refine ⟨n, hstarts, hends, ?_, ?_⟩
    · rintro rfl
      rw [hfailures, (Branches.oneAhead_of_pos hpos).1]
    · rintro rfl
      rw [hfailures, (Branches.oneAhead_of_pos hpos).2]

/-- The end of the branch of region 4 comes once more at the end of the log. -/
theorem audit_nestedLog_with_copy :
    (audit .backward nestedLog).passed = true ∧
      (audit .backward
          (nestedLog.insertIdx 9 (.branchEnd ⟨4, by decide⟩ ⟨10, by decide⟩))).failures =
        [.duplicate (.branchEnd ⟨4, by decide⟩ ⟨10, by decide⟩) 1 9,
          .branchCounts ⟨4, by decide⟩ 1 2] := by
  have hpassed : (audit .backward nestedLog).passed = true := by cbv
  obtain ⟨-, -, -, hbranch⟩ := audit_insertIdx_copy .backward nestedLog hpassed 1 9
    (.branchEnd ⟨4, by decide⟩ ⟨10, by decide⟩) rfl (by decide) (by decide)
  obtain ⟨n, hstarts, -, -, hends⟩ := hbranch .finish ⟨4, by decide⟩ rfl rfl
  have hone : Branches.countOf .branchStart ⟨4, by decide⟩ nestedLog = 1 := by cbv
  obtain rfl : 1 = n := hone.symm.trans hstarts
  exact ⟨hpassed, hends rfl⟩

end Report

end ScanAudit
