import ScanAudit.Proofs.Margins
import ScanAudit.Proofs.RecordedLog
import ScanAudit.Proofs.RecorderRun

/-!
# The margin of a printed line

A printer counts the regions that are open and does not look at which they are; the balance
check keeps them all and compares them. As long as the check goes on, the two agree: the
depth that the events lead to is the number of regions the check has pending
(`ScanAudit.Printer.depthOf_length`). They part only at an event that closes the wrong region,
where the check stops and the printer does not.

So the margin of a line can be read off the log: two blanks for each region that is pending
before the event, and two less if the event closes one of them.

There is a second way to part. The check keeps any number of regions, but a printer has no margin
for a line at level 32768. Then the program stops, although the check goes on
(`ScanAudit.Printer.stopped_before_check`), and the printer has no depth in the end that could be
compared.
-/

namespace ScanAudit

namespace Regions

variable {d : Direction}

theorem check_of_scan {log : List Record} {pending : List NodeId}
    (h : scan d [] 0 log = .ok pending) : check d log = verdict d pending := by
  rw [check, h]

/-- A walk that fails on the beginning of a log fails on the log. -/
theorem check_of_scan_take {log : List Record} {i : Nat} {v : Violation}
    (h : scan d [] 0 (log.take i) = .error v) : check d log = .error v := by
  have hscan : scan d [] 0 (log.take i ++ log.drop i) = .error v := by rw [scan_append, h]
  rw [List.take_append_drop] at hscan
  exact check_eq_error_iff_scan.mpr (Or.inl hscan)

/-- **Only a mismatch stops the walk** over a log whose events all name their regions; up to
it there is a list of pending regions. -/
theorem exists_scan_take {log : List Record} (hnamed : ∀ r ∈ log, ¬Nameless d r) {i : Nat}
    (hmismatch : ∀ innermost closed index,
      check d log = .error (.regionMismatch innermost closed index) → i ≤ index) :
    ∃ pending, scan d [] 0 (log.take i) = .ok pending := by
  rcases hscan : scan d [] 0 (log.take i) with v | pending
  · have hcheck := check_of_scan_take hscan
    obtain ⟨before, r, after, middle, hsplit, -, hr⟩ := scan_eq_error_iff.mp hscan
    have hmem : r ∈ log := List.mem_of_mem_take (i := i) (by rw [hsplit]; simp)
    rcases step_eq_error_iff.mp hr with ⟨hnameless, -⟩ | ⟨closed, innermost, outer, -, -, -, rfl⟩
    · exact absurd hnameless (hnamed r hmem)
    · -- the mismatch stands before position `i`, where there should be none
      have hle : i ≤ 0 + before.length := hmismatch innermost closed _ hcheck
      have hlength : (log.take i).length ≤ i := List.length_take_le i log
      rw [hsplit, List.length_append, List.length_cons] at hlength
      omega
  · exact ⟨pending, rfl⟩

/-- A region that is opened again and again is pending as often. -/
theorem scan_replicate_of_opens {region : NodeId} {r : Record} (hr : Opens d region r)
    (pending : List NodeId) (index n : Nat) :
    scan d pending index (List.replicate n r) = .ok (List.replicate n region ++ pending) := by
  induction n generalizing pending index with
  | zero => rfl
  | succ n ih =>
    refine scan_cons_eq_ok_iff.mpr ⟨region :: pending, step_of_opens hr pending index, ?_⟩
    rw [List.replicate_succ', List.append_assoc]
    exact ih _ _

theorem check_replicate_of_opens {region : NodeId} {r : Record} (hr : Opens d region r) {n : Nat}
    (hn : 0 < n) :
    check d (List.replicate n r) = .error (.unclosedRegions (List.replicate n region) d) := by
  cases n with
  | zero => exact absurd hn (Nat.lt_irrefl 0)
  | succ n =>
    rw [check, scan_replicate_of_opens hr, List.append_nil]
    rfl

end Regions

/-- A callback that comes again and again leaves its record as often. -/
theorem Recorder.log_run_replicate {c : Callback} {r : Record} (hc : c.record = .ok r) (n : Nat) :
    (fresh.run (List.replicate n c)).1.log.toList = List.replicate n r := by
  have hrecords : (List.replicate n c).map Callback.record =
      (List.replicate n r).map Except.ok := by
    rw [List.map_replicate, List.map_replicate, hc]
  rw [run_of_records rfl hrecords]
  simp [fresh]

namespace Printer

/-! ### Depth and pending regions -/

variable {d : Direction} {pending next : List NodeId} {index : Nat}

/-- **The depth follows the check**: an event from which the check goes on raises or lowers
the depth as it adds or takes away a pending region. -/
theorem depthAfter_length {r : Record} (h : Regions.step d pending index r = .ok next) :
    depthAfter d pending.length r.kind = next.length := by
  rcases Regions.step_eq_ok_iff.mp h with
    ⟨hr, rfl⟩ | ⟨region, hr, rfl⟩ | ⟨region, hr, ⟨rfl, rfl⟩ | rfl⟩
  · simp only [depthAfter, lineDepth, Regions.role_eq_neutral_iff.mpr hr]
  · simp only [depthAfter, Direction.role_eq_opens_iff.mpr hr.1, List.length_cons]
  · simp only [depthAfter, lineDepth, Direction.role_eq_closes_iff.mpr hr.1, List.length_nil]
  · simp only [depthAfter, lineDepth, Direction.role_eq_closes_iff.mpr hr.1, List.length_cons,
      Nat.add_sub_cancel]

/-- **A run of events** leads to as many levels as there are regions pending, if the check goes
on to its end. -/
theorem depthOf_length {cs : List Callback} {log : List Record}
    (hlog : List.Forall₂ Callback.Reported cs log)
    (hscan : Regions.scan d pending index log = .ok next) :
    depthOf d pending.length cs = next.length := by
  induction hlog generalizing pending index with
  | nil =>
    obtain rfl : pending = next := Except.ok.inj hscan
    rfl
  | cons hr _ ih =>
    obtain ⟨middle, hstep, hrest⟩ := Regions.scan_cons_eq_ok_iff.mp hscan
    have hdepth := depthAfter_length hstep
    rw [hr.1] at hdepth
    rw [depthOf, List.foldl_cons, hdepth]
    exact ih hrest

/-! ### Margins -/

/-- **One callback more** adds its line at the level that the events before it have led to, if
there is a margin for it. -/
theorem after_take_succ {cs : List Callback} {i : Nat} {c : Callback} (hc : cs[i]? = some c)
    (hm : HasMargins d 0 (cs.take i))
    (hfits : 2 * lineDepth d (depthOf d 0 (cs.take i)) c.kind ≤ widestMargin) :
    ((fresh d .unlimited).run cs).2[i]? = some .accepted ∧
      (after d (cs.take (i + 1))).sink.bytes = (after d (cs.take i)).sink.bytes ++
        (lineAt (lineDepth d (depthOf d 0 (cs.take i)) c.kind) c).toUTF8 := by
  have hgoes := (stopped_notMem_run_iff (p := fresh d .unlimited) rfl).mpr hm
  have hbefore := after_of_margins hm
  have hstep := step_of_unlimited (p := after d (cs.take i)) (c := c) (by rw [hbefore])
    (by rw [hbefore]; exact hfits)
  have hsucc : (fresh d .unlimited).run (cs.take (i + 1)) = _ := runWith_take_succ hgoes hc
  have hanswer : ((fresh d .unlimited).run cs).2[i]? = _ := getElem?_answers hgoes hc
  rw [hanswer, after, hsucc]
  rw [← run, ← after, hstep, hbefore]
  exact ⟨rfl, rfl⟩

/-- **The margin of a printed line tells the pending regions.** Where every id names a node,

* the printer ends at depth 0 if the check passes the log, and at as many levels as there
  are regions that are never closed, unless a line without a margin stops it;
* up to the event at which the check finds a mismatch, and everywhere if it finds none, a
  line is indented by two blanks for each region that the check has pending before its
  event, the line of a closing event one level less;
* if these are more blanks than there can be, the program stops there and nothing more is
  printed. -/
theorem indents_by_pending (d : Direction) (cs : List Callback) (h : ∀ c ∈ cs, ¬c.Malformed) :
    let log := (Recorder.fresh.run cs).1.log.toList
    let answers := ((fresh d .unlimited).run cs).2
    (.stopped ∉ answers →
      (Regions.check d log = .ok () → (after d cs).depth = 0) ∧
        ∀ regions d', Regions.check d log = .error (.unclosedRegions regions d') →
          (after d cs).depth = regions.length) ∧
      ∀ i c, cs[i]? = some c →
        (∀ innermost closed index,
          Regions.check d log = .error (.regionMismatch innermost closed index) → i ≤ index) →
        .stopped ∉ ((fresh d .unlimited).run (cs.take i)).2 →
        ∃ pending, Regions.check d (log.take i) = Regions.verdict d pending ∧
          let level := if c.kind = d.closeKind then pending.length - 1 else pending.length
          (2 * level ≤ widestMargin → answers[i]? = some .accepted ∧
            (after d (cs.take (i + 1))).sink.bytes = (after d (cs.take i)).sink.bytes ++
              (Layout.blanks (2 * level) ++ c.line ++ "\n").toUTF8) ∧
          (widestMargin < 2 * level → answers = List.replicate i .accepted ++ [.stopped] ∧
            (after d cs).sink = (after d (cs.take i)).sink) := by
  intro log answers
  obtain ⟨records, hrecords, hreported, hrun⟩ := Recorder.run_fresh_of_readable h
  have hlog : log = records := congrArg (fun run => run.1.log.toList) hrun
  have hnamed : ∀ r ∈ records, ¬Regions.Nameless d r := by
    intro r hr
    obtain ⟨c, -, hc⟩ : ∃ c ∈ cs, c.record = .ok r := by
      have hmem : Except.ok r ∈ cs.map Callback.record := hrecords ▸ List.mem_map_of_mem hr
      exact List.mem_map.mp hmem
    exact Regions.not_nameless_of_shaped (Callback.shaped_record hc)
  rw [hlog]
  refine ⟨fun hgoes => ?_, fun i c hc hmismatch hgoes => ?_⟩
  · have hm : HasMargins d 0 cs := (stopped_notMem_run_iff rfl).mp hgoes
    rw [after_of_margins hm]
    refine ⟨fun hok => ?_, fun regions d' herror => ?_⟩
    · exact depthOf_length hreported (Regions.check_eq_ok_iff_scan.mp hok)
    · have hviable := (Regions.check_eq_unclosed_iff.mp herror).1
      exact depthOf_length hreported (Regions.scan_of_viable hviable 0)
  · obtain ⟨pending, hscan⟩ := Regions.exists_scan_take hnamed hmismatch
    have hm : HasMargins d 0 (cs.take i) := (stopped_notMem_run_iff rfl).mp hgoes
    have hdepth : depthOf d 0 (cs.take i) = pending.length :=
      depthOf_length (List.forall₂_take i hreported) hscan
    refine ⟨pending, Regions.check_of_scan hscan, ?_⟩
    rw [← lineDepth_eq, ← hdepth]
    refine ⟨after_take_succ hc hm, fun hwide => ?_⟩
    have hstop := run_fresh_of_wide hm hc hwide
    refine ⟨congrArg Prod.snd hstop, ?_⟩
    rw [after_of_margins hm, after, hstop, lines_take]

/-- The beginning of a pass: a region that is still running, then regions 4 and 12, the
latter inside a branch of the former. -/
def openPass : List Callback :=
  [.parallelStart "3" "8", .parallelEnd "4" "11", .branchEnd "4" "10",
    .parallelEnd "+12" "015", .atom none "13" none]

/-- **Two regions are open** at the end of this pass, and so the printer stands at depth 2. -/
theorem depth_after_openPass :
    (∀ c ∈ openPass, ¬c.Malformed) ∧
      Regions.check .backward (Recorder.fresh.run openPass).1.log.toList =
        .error (.unclosedRegions [⟨12, by decide⟩, ⟨4, by decide⟩] .backward) ∧
      (after .backward openPass).depth = 2 := by
  have hreadable : ∀ c ∈ openPass, ¬c.Malformed := by decide
  have hcheck : Regions.check .backward (Recorder.fresh.run openPass).1.log.toList =
      .error (.unclosedRegions [⟨12, by decide⟩, ⟨4, by decide⟩] .backward) := by decide
  have hgoes : .stopped ∉ ((fresh .backward .unlimited).run openPass).2 :=
    (stopped_notMem_run_iff rfl).mpr (by decide)
  exact ⟨hreadable, hcheck,
    ((indents_by_pending .backward openPass hreadable).1 hgoes).2 _ _ hcheck⟩

/-- **The check goes on where the printer is stopped.** Of 32769 regions that are opened and never
closed, it finds every one, but the printer gets to depth 32768 only. -/
theorem stopped_before_check :
    let cs := List.replicate 32769 (.parallelEnd "1" "2")
    (∀ c ∈ cs, ¬c.Malformed) ∧
      Regions.check .backward (Recorder.fresh.run cs).1.log.toList =
        .error (.unclosedRegions (List.replicate 32769 ⟨1, by decide⟩) .backward) ∧
      (after .backward cs).depth = 32768 := by
  intro cs
  have hrecord : (Callback.parallelEnd "1" "2").record =
      .ok (.parallelEnd ⟨1, by decide⟩ ⟨2, by decide⟩) := by decide
  refine ⟨fun c hc => ?_, ?_, (run_nested rfl (by decide)).2⟩
  · rw [List.eq_of_mem_replicate hc]
    decide
  · rw [Recorder.log_run_replicate hrecord]
    exact Regions.check_replicate_of_opens ⟨rfl, rfl⟩ (by decide)

end Printer

end ScanAudit
