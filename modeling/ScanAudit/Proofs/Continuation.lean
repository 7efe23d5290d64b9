import ScanAudit.Proofs.LevelBlocks

/-!
# Logs that go on

A scan may go on after its log has been checked. What the check said of the log then tells
much of what it will say of any longer log that begins with it.

* *The log was accepted.* Then nothing was pending at its end, whatever it has closed without
  having opened it. So the check says of a longer log what it says of the rest alone, at
  positions that are later by the length of the accepted part
  (`ScanAudit.Regions.check_append_of_ok`).
* *One of its events was wrong.* The walk ended there, and it ends there in the longer log too
  (`ScanAudit.Regions.check_append_of_stopped`).
* *Some regions were left open.* They are what was pending at the end, innermost first. Events
  that close them in this order mend the log, for then nothing is pending any more. No other
  closing events do, but for those that follow these and so close nothing
  (`ScanAudit.Regions.check_append_closes_iff`).
-/

namespace ScanAudit.Regions

variable {d : Direction} {a : List Record}

/-- **After an accepted log** the check starts anew. -/
theorem check_append_of_ok (h : check d a = .ok ()) (b : List Record) :
    check d (a ++ b) = (check d b).mapError (.shift 0 a.length) := by
  have hrest : scan d [] (0 + a.length) b = (scan d [] 0 b).mapError (.shift 0 a.length) :=
    scan_shift (Nat.le_refl 0) [] a.length b
  refine check_eq_mapError ?_ fun pending => verdict_shift pending _ _
  rw [scan_append, check_eq_ok_iff_scan.mp h]
  exact hrest

/-- **An error about an event is final**, and only regions left open are another error. -/
theorem check_append_of_stopped {v : Violation} (h : check d a = .error v)
    (hv : ∀ regions, v ≠ .unclosedRegions regions d) (b : List Record) :
    check d (a ++ b) = .error v := by
  rcases check_eq_error_iff_scan.mp h with hscan | ⟨pending, -, -, rfl⟩
  · refine check_eq_error_iff_scan.mpr (Or.inl ?_)
    rw [scan_append, hscan]
  · exact absurd rfl (hv pending)

/-- **A walk over closing events** closes all that is pending exactly when what they name
begins with the pending regions, innermost first. -/
theorem scan_closes_eq_ok_iff {pending named : List NodeId} {closers : List Record}
    (h : List.Forall₂ (Closes d) named closers) (index : Nat) :
    scan d pending index closers = .ok [] ↔ pending <+: named := by
  induction h generalizing pending index with
  | nil => simp [scan]
  | @cons region c named closers hc _ ih =>
    rw [scan_cons_eq_ok_iff]
    rcases pending with _ | ⟨innermost, outer⟩
    · -- nothing is pending, here and from here on
      simp [step_of_closes_nil hc, ih]
    · by_cases hne : region = innermost
      · subst hne
        simp [step_of_closes hc, ih]
      · simp [step_of_closes_ne hc hne, List.cons_prefix_cons, Ne.symm hne]

/-- **What mends a log with regions left open**: closing events that name these regions,
innermost first, before any others. -/
theorem check_append_closes_iff {regions named : List NodeId} {d' : Direction}
    {closers : List Record} (h : check d a = .error (.unclosedRegions regions d'))
    (hclosers : List.Forall₂ (Closes d) named closers) :
    check d (a ++ closers) = .ok () ↔ regions <+: named := by
  have hviable : Viable d regions a := (check_eq_unclosed_iff.mp h).1
  rw [check_eq_ok_iff_scan, scan_append, scan_of_viable hviable]
  exact scan_closes_eq_ok_iff hclosers _

/-- **What the check says of a log that goes on.** An accepted log does not change what is
said of the rest, except for its positions. An error about an event stays, whatever the rest
is. Regions left open are closed by closing events for these regions in the reported order;
and a list of closing events makes the log pass only if it begins with such events. -/
theorem check_append (d : Direction) (a : List Record) :
    (check d a = .ok () →
      ∀ b, check d (a ++ b) = (check d b).mapError (.shift 0 a.length)) ∧
    (∀ v, check d a = .error v → (∀ regions, v ≠ .unclosedRegions regions d) →
      ∀ b, check d (a ++ b) = .error v) ∧
    ∀ regions d', check d a = .error (.unclosedRegions regions d') →
      (∀ closers, List.Forall₂ (Closes d) regions closers → check d (a ++ closers) = .ok ()) ∧
      ∀ named closers, List.Forall₂ (Closes d) named closers →
        check d (a ++ closers) = .ok () → regions <+: named := by
  refine ⟨check_append_of_ok, fun v => check_append_of_stopped, fun regions d' h => ⟨?_, ?_⟩⟩
  · intro closers hclosers
    exact (check_append_closes_iff h hclosers).mpr List.prefix_rfl
  · intro named closers hclosers
    exact (check_append_closes_iff h hclosers).mp

/-- A log in which the start of region 4 comes too early, after one that passes and before
it; and a log with regions 12 and 4 left open, with the starts of both after it. -/
theorem check_append_nestedLog :
    let node (n : Fin 4294967296) : NodeId := ⟨n, n.isLt⟩
    let cut := Report.nestedLog.take 3
    let crossed := cut ++ [.parallelStart (node 4) (node 6)]
    let starts := [.parallelStart (node 12) (node 13), .parallelStart (node 4) (node 6)]
    check .backward Report.nestedLog = .ok () ∧
      check .backward (Report.nestedLog ++ crossed) =
        .error (.regionMismatch (node 12) (node 4) 12) ∧
      check .backward crossed = .error (.regionMismatch (node 12) (node 4) 3) ∧
      check .backward (crossed ++ Report.nestedLog) =
        .error (.regionMismatch (node 12) (node 4) 3) ∧
      check .backward cut = .error (.unclosedRegions [node 12, node 4] .backward) ∧
      check .backward (cut ++ starts) = .ok () := by
  intro node cut crossed starts
  have hpassed : check .backward Report.nestedLog = .ok () := by cbv
  have hcrossed : check .backward crossed = .error (.regionMismatch (node 12) (node 4) 3) := by
    cbv
  have hcut : check .backward cut = .error (.unclosedRegions [node 12, node 4] .backward) := by
    cbv
  have hstarts : List.Forall₂ (Closes .backward) [node 12, node 4] starts :=
    .cons ⟨rfl, rfl⟩ (.cons ⟨rfl, rfl⟩ .nil)
  refine ⟨hpassed, ?_, hcrossed, ?_, hcut, ?_⟩
  · rw [(check_append .backward _).1 hpassed, hcrossed]
    rfl
  · exact (check_append .backward _).2.1 _ hcrossed (by simp) _
  · exact ((check_append .backward _).2.2 _ _ hcut).1 starts hstarts

end ScanAudit.Regions
