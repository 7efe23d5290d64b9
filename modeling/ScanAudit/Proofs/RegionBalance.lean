import ScanAudit.Proofs.Nesting

/-!
# What the balance check says about a log

The check walks over a log once and remembers the pending regions only. This module
reads its result back in terms of the bracket grammar of `ScanAudit.Regions.Accepted` and
`ScanAudit.Regions.Viable`.

* It accepts the accepted logs and no others, because a log is accepted exactly when it is
  viable with nothing pending (`ScanAudit.Regions.check_eq_ok_iff_viable`).
* Where it does not accept, its error can be read off the log
  (`ScanAudit.Regions.check_eq_error_iff_cases`). Two errors stop the walk, and they tell
  the first event at which the log stops being viable; so nothing after that event can
  change them. The third tells the regions that are pending when the log ends.

The middle of the module looks inside an accepted log: what is opened there is closed, and
an event that closes nothing stands outside every region.
-/

namespace ScanAudit.Regions

variable {d : Direction}

/-! ### From the walk to the check -/

theorem check_eq_ok_iff_scan {log : List Record} :
    check d log = .ok () ↔ scan d [] 0 log = .ok [] := by
  rw [check]
  rcases scan d [] 0 log with v | _ | ⟨region, outer⟩ <;> simp [verdict]

/-- **The check passes exactly the viable logs with nothing pending.** -/
theorem check_eq_ok_iff_viable {log : List Record} :
    check d log = .ok () ↔ Viable d [] log :=
  check_eq_ok_iff_scan.trans scan_eq_ok_iff_viable

/-- The check fails when its walk does, or when the walk ends with regions pending. -/
theorem check_eq_error_iff_scan {log : List Record} {v : Violation} :
    check d log = .error v ↔
      scan d [] 0 log = .error v ∨
        ∃ pending, scan d [] 0 log = .ok pending ∧ pending ≠ [] ∧
          v = .unclosedRegions pending d := by
  rw [check]
  rcases scan d [] 0 log with v' | _ | ⟨region, outer⟩ <;> simp [verdict, eq_comm]

/-- **Two checks that tell the same in other words**: their walks do, and so does what they
say about regions left open. -/
theorem check_eq_mapError {d' : Direction} {log log' : List Record} {f : Violation → Violation}
    (hscan : scan d' [] 0 log' = (scan d [] 0 log).mapError f)
    (hverdict : ∀ pending, verdict d' pending = (verdict d pending).mapError f) :
    check d' log' = (check d log).mapError f := by
  rw [check, check, hscan]
  rcases scan d [] 0 log with v | pending
  · rfl
  · exact hverdict pending

/-! ### Where a walk stops -/

/-- A log is what stands before a position, the record there, and what stands after it. -/
theorem split_at_of_getElem? {log : List Record} {index : Nat} {r : Record}
    (h : log[index]? = some r) :
    log = log.take index ++ r :: log.drop (index + 1) ∧ (log.take index).length = index := by
  obtain ⟨hlt, rfl⟩ := List.getElem?_eq_some_iff.mp h
  constructor
  · rw [← List.drop_eq_getElem_cons hlt, List.take_append_drop]
  · rw [List.length_take, Nat.min_eq_left (Nat.le_of_lt hlt)]

/-- **A walk from the start of a log fails at the first event that cannot follow the
viable log before it.** -/
theorem scan_start_eq_error_iff {log : List Record} {v : Violation} :
    scan d [] 0 log = .error v ↔
      ∃ index r pending, log[index]? = some r ∧ Viable d pending (log.take index) ∧
        step d pending index r = .error v := by
  rw [scan_eq_error_iff]
  constructor
  · rintro ⟨before, r, after, middle, rfl, hbefore, hr⟩
    rw [Nat.zero_add] at hr
    refine ⟨before.length, r, middle, by simp, ?_, hr⟩
    rw [List.take_left' rfl]
    exact viable_of_scan hbefore
  · rintro ⟨index, r, pending, hget, hviable, hr⟩
    obtain ⟨hsplit, hlength⟩ := split_at_of_getElem? hget
    refine ⟨log.take index, r, _, pending, hsplit, scan_of_viable hviable 0, ?_⟩
    rwa [Nat.zero_add, hlength]

/-- **What a failing check has met**: an event that names no region, an event that closes
another region than the innermost pending one, or the end of the log with regions pending.
The log is viable up to there. -/
theorem check_eq_error_iff_cases {log : List Record} {v : Violation} :
    check d log = .error v ↔
      (∃ index r pending, log[index]? = some r ∧ Viable d pending (log.take index) ∧
        Nameless d r ∧ v = .missingRegion r index) ∨
      (∃ index r closed innermost outer, log[index]? = some r ∧
        Viable d (innermost :: outer) (log.take index) ∧ Closes d closed r ∧
        closed ≠ innermost ∧ v = .regionMismatch innermost closed index) ∨
      ∃ pending, Viable d pending log ∧ pending ≠ [] ∧ v = .unclosedRegions pending d := by
  rw [check_eq_error_iff_scan, scan_start_eq_error_iff]
  constructor
  · rintro (⟨index, r, pending, hget, hviable, hr⟩ | ⟨pending, hscan, hne, hv⟩)
    · rcases step_eq_error_iff.mp hr with ⟨hn, hv⟩ | ⟨closed, innermost, outer, hc, rfl, hne, hv⟩
      · exact Or.inl ⟨index, r, pending, hget, hviable, hn, hv⟩
      · exact Or.inr (Or.inl ⟨index, r, closed, innermost, outer, hget, hviable, hc, hne, hv⟩)
    · exact Or.inr (Or.inr ⟨pending, viable_of_scan hscan, hne, hv⟩)
  · rintro (⟨index, r, pending, hget, hviable, hn, rfl⟩ |
      ⟨index, r, closed, innermost, outer, hget, hviable, hc, hne, rfl⟩ |
      ⟨pending, hviable, hne, rfl⟩)
    · exact Or.inl ⟨index, r, pending, hget, hviable, step_of_nameless hn _ _⟩
    · exact Or.inl ⟨index, r, _, hget, hviable, step_of_closes_ne hc hne _ _⟩
    · exact Or.inr ⟨pending, scan_of_viable hviable 0, hne, rfl⟩

/-- **Regions are reported as never closed** exactly when the log is viable to its end and
they are what is pending there. -/
theorem check_eq_unclosed_iff {log : List Record} {regions : List NodeId} {d' : Direction} :
    check d log = .error (.unclosedRegions regions d') ↔
      Viable d regions log ∧ regions ≠ [] ∧ d' = d := by
  rw [check_eq_error_iff_cases]
  constructor
  · rintro (⟨_, _, _, -, -, -, hv⟩ | ⟨_, _, _, _, _, -, -, -, -, hv⟩ | ⟨pending, hviable, hne, hv⟩)
    · exact Violation.noConfusion hv
    · exact Violation.noConfusion hv
    · obtain ⟨rfl, rfl⟩ : regions = pending ∧ d' = d := by simpa using hv
      exact ⟨hviable, hne, rfl⟩
  · rintro ⟨hviable, hne, rfl⟩
    exact Or.inr (Or.inr ⟨regions, hviable, hne, rfl⟩)

/-- **A mismatch is reported** exactly when the log is viable up to an event that closes
another region than the innermost one pending there. -/
theorem check_eq_mismatch_iff {log : List Record} {innermost closed : NodeId} {index : Nat} :
    check d log = .error (.regionMismatch innermost closed index) ↔
      ∃ r outer, log[index]? = some r ∧ Viable d (innermost :: outer) (log.take index) ∧
        Closes d closed r ∧ closed ≠ innermost := by
  rw [check_eq_error_iff_cases]
  constructor
  · rintro (⟨_, _, _, -, -, -, hv⟩ | ⟨index', r, closed', top, outer, hget, hviable, hc, hne, hv⟩ |
      ⟨_, -, -, hv⟩)
    · exact Violation.noConfusion hv
    · obtain ⟨rfl, rfl, rfl⟩ : innermost = top ∧ closed = closed' ∧ index = index' := by
        simpa using hv
      exact ⟨r, outer, hget, hviable, hc, hne⟩
    · exact Violation.noConfusion hv
  · rintro ⟨r, outer, hget, hviable, hc, hne⟩
    exact Or.inr (Or.inl ⟨index, r, closed, innermost, outer, hget, hviable, hc, hne, rfl⟩)

/-- **A missing region is reported** exactly when the log is viable up to an event that
opens or closes a region without naming it. -/
theorem check_eq_missing_iff {log : List Record} {r : Record} {index : Nat} :
    check d log = .error (.missingRegion r index) ↔
      (∃ pending, Viable d pending (log.take index)) ∧ log[index]? = some r ∧ Nameless d r := by
  rw [check_eq_error_iff_cases]
  constructor
  · rintro (⟨index', r', pending, hget, hviable, hn, hv⟩ | ⟨_, _, _, _, _, -, -, -, -, hv⟩ |
      ⟨_, -, -, hv⟩)
    · obtain ⟨rfl, rfl⟩ : r = r' ∧ index = index' := by simpa using hv
      exact ⟨⟨pending, hviable⟩, hget, hn⟩
    · exact Violation.noConfusion hv
    · exact Violation.noConfusion hv
  · rintro ⟨⟨pending, hviable⟩, hget, hn⟩
    exact Or.inl ⟨index, r, pending, hget, hviable, hn, rfl⟩

/-! ### Inside an accepted log -/

/-- A log that is viable to its end is viable up to any event, and that event can follow. -/
theorem viable_split {before after : List Record} {r : Record} {pending : List NodeId}
    (h : Viable d pending (before ++ r :: after)) :
    ∃ outer next, Viable d outer before ∧ step d outer before.length r = .ok next ∧
      scan d next (before.length + 1) after = .ok pending := by
  obtain ⟨outer, hbefore, hafter⟩ := scan_append_eq_ok_iff.mp (scan_of_viable h 0)
  obtain ⟨next, hr, hrest⟩ := scan_cons_eq_ok_iff.mp hafter
  rw [Nat.zero_add] at hr hrest
  exact ⟨outer, next, viable_of_scan hbefore, hr, hrest⟩

/-- **Every region that is pending gets closed** by a walk that ends with nothing pending:
what is left of the log starts with a balanced log and the event that closes the innermost
region. -/
theorem exists_close_of_scan {region : NodeId} {pending : List NodeId} {index : Nat}
    {log : List Record} (h : scan d (region :: pending) index log = .ok []) :
    ∃ inner c rest, log = inner ++ c :: rest ∧ Balanced d inner ∧ Closes d region c := by
  -- on the length, because what is left after a block is not the tail of the log
  induction hn : log.length using Nat.strongRecOn
    generalizing region pending index log with
  | _ n ih =>
    cases log with
    | nil => exact absurd h (by simp [scan])
    | cons r rest =>
      rw [List.length_cons] at hn
      obtain ⟨next, hr, hrest⟩ := scan_cons_eq_ok_iff.mp h
      rcases step_eq_ok_iff.mp hr with
        ⟨hneutral, rfl⟩ | ⟨region', ho, rfl⟩ | ⟨region', hc, ⟨hnil, -⟩ | hcons⟩
      · obtain ⟨inner, c, rest', rfl, hinner, hc⟩ := ih _ (by omega) hrest rfl
        exact ⟨r :: inner, c, rest', rfl, .neutral hneutral hinner, hc⟩
      · -- the block that starts here ends first, and the region is closed after it
        obtain ⟨block, c', rest', rfl, hblock, hc'⟩ := ih _ (by omega) hrest rfl
        obtain ⟨_, hblock', hafter⟩ := scan_append_eq_ok_iff.mp hrest
        rw [scan_of_balanced hblock, Except.ok.injEq] at hblock'
        subst hblock'
        obtain ⟨_, hstep, hrest'⟩ := scan_cons_eq_ok_iff.mp hafter
        rw [step_of_closes hc', Except.ok.injEq] at hstep
        subst hstep
        rw [List.length_append, List.length_cons] at hn
        obtain ⟨inner, c, rest'', rfl, hinner, hc⟩ := ih _ (by omega) hrest' rfl
        refine ⟨r :: (block ++ c' :: inner), c, rest'', by simp, ?_, hc⟩
        exact .block ho hblock hc' hinner
      · exact absurd hnil (by simp)
      · obtain ⟨rfl, rfl⟩ : region = region' ∧ pending = next := by simpa using hcons
        exact ⟨[], r, rest, rfl, .nil, hc⟩

theorem Accepted.not_nameless {log : List Record} (h : Accepted d log) {r : Record}
    (hr : r ∈ log) : ¬Nameless d r := by
  intro hnameless
  obtain ⟨before, after, rfl⟩ := List.append_of_mem hr
  obtain ⟨outer, next, -, hstep, -⟩ := viable_split (Viable.accepted h)
  rw [step_of_nameless hnameless] at hstep
  exact absurd hstep (by simp)

/-- **What an accepted log opens it closes**, around a balanced log. -/
theorem Accepted.exists_close {before after : List Record} {o : Record} {region : NodeId}
    (h : Accepted d (before ++ o :: after)) (ho : Opens d region o) :
    ∃ inner c rest, after = inner ++ c :: rest ∧ Balanced d inner ∧ Closes d region c := by
  obtain ⟨outer, next, -, hstep, hafter⟩ := viable_split (Viable.accepted h)
  rw [step_of_opens ho, Except.ok.injEq] at hstep
  subst hstep
  exact exists_close_of_scan hafter

/-- **A closing event of an accepted log closes nothing only where nothing is open**;
anywhere else it closes what was opened last. -/
theorem Accepted.close_cases {before after : List Record} {c : Record} {region : NodeId}
    (h : Accepted d (before ++ c :: after)) (hc : Closes d region c) :
    Accepted d before ∨
      ∃ outside o inner, before = outside ++ o :: inner ∧ Opens d region o ∧
        Balanced d inner := by
  obtain ⟨outer, next, hbefore, hstep, -⟩ := viable_split (Viable.accepted h)
  cases hbefore with
  | accepted hacc => exact Or.inl hacc
  | @opened region' outer o outside inner _ ho hinner =>
    by_cases hne : region = region'
    · subst hne
      exact Or.inr ⟨outside, o, inner, rfl, ho, hinner⟩
    · rw [step_of_closes_ne hc hne] at hstep
      exact absurd hstep (by simp)

/-! ### The check against the grammar -/

/-- **The check accepts exactly the bracket grammar.** And in a log it accepts, every event
of the nesting names its region, every region that is opened is closed by an event of the
same region, and an event closes a region that was never opened only where none is open. -/
theorem check_eq_ok_iff_accepted (d : Direction) (log : List Record) :
    (check d log = .ok () ↔ Accepted d log) ∧
      (Accepted d log →
        (∀ r ∈ log, ¬Nameless d r) ∧
        (∀ before o after region, log = before ++ o :: after → Opens d region o →
          ∃ inner c rest, after = inner ++ c :: rest ∧ Balanced d inner ∧
            Closes d region c) ∧
        ∀ before c after region, log = before ++ c :: after → Closes d region c →
          Accepted d before ∨
            ∃ outside o inner, before = outside ++ o :: inner ∧ Opens d region o ∧
              Balanced d inner) := by
  refine ⟨check_eq_ok_iff_viable.trans viable_nil_iff, fun h => ⟨?_, ?_, ?_⟩⟩
  · exact fun r hr => h.not_nameless hr
  · rintro before o after region rfl ho
    exact h.exists_close ho
  · rintro before c after region rfl hc
    exact h.close_cases hc

/-- **The check reports exactly the right error**: the regions left open when the log is
viable to its end, and otherwise the first event that the viable log before it cannot
have next, with what is wrong about it; and it reports nothing else. -/
theorem check_eq_error_iff (d : Direction) (log : List Record) :
    (∀ regions d', check d log = .error (.unclosedRegions regions d') ↔
      Viable d regions log ∧ regions ≠ [] ∧ d' = d) ∧
    (∀ innermost closed index, check d log = .error (.regionMismatch innermost closed index) ↔
      ∃ r outer, log[index]? = some r ∧ Viable d (innermost :: outer) (log.take index) ∧
        Closes d closed r ∧ closed ≠ innermost) ∧
    (∀ r index, check d log = .error (.missingRegion r index) ↔
      (∃ pending, Viable d pending (log.take index)) ∧ log[index]? = some r ∧ Nameless d r) ∧
    ∀ v, check d log = .error v →
      (∃ regions, v = .unclosedRegions regions d) ∨
      (∃ innermost closed index, v = .regionMismatch innermost closed index) ∨
      ∃ r index, v = .missingRegion r index := by
  refine ⟨fun _ _ => check_eq_unclosed_iff, fun _ _ _ => check_eq_mismatch_iff,
    fun _ _ => check_eq_missing_iff, fun v hv => ?_⟩
  rcases check_eq_error_iff_cases.mp hv with
    ⟨index, r, _, -, -, -, rfl⟩ | ⟨index, _, closed, innermost, _, -, -, -, -, rfl⟩ |
      ⟨pending, -, -, rfl⟩
  · exact Or.inr (Or.inr ⟨r, index, rfl⟩)
  · exact Or.inr (Or.inl ⟨innermost, closed, index, rfl⟩)
  · exact Or.inl ⟨pending, rfl⟩

end ScanAudit.Regions
