import ScanAudit.Proofs.Reading
import ScanAudit.Proofs.Recording

/-!
# What a recorder does in a whole run

A recorder works until the first malformed callback and never again. So a run falls into
two stretches: up to that callback everything is accepted and recorded, and from it on
everything is refused, with the malformed id that callback was refused for. A callback of
the second stretch may well be readable; and the callback between the two leaves no record,
whichever of its ids is the malformed one.
-/

namespace ScanAudit.Recorder

/-- **A failed recorder is of no more use**: it refuses a whole run with its failure. -/
theorem run_of_failure {r : Recorder} {e : MalformedId} (h : r.failure = some e)
    (cs : List Callback) : r.run cs = (r, List.replicate cs.length (.error e)) := by
  induction cs with
  | nil => rfl
  | cons c cs ih =>
    simp only [run, step_of_failure h, ih]
    rfl

/-- **The callback that ends a recording** is refused, and so is everything after it. -/
theorem run_of_malformed {r : Recorder} (hr : r.failure = none) {c : Callback} {e : MalformedId}
    (hc : c.record = .error e) (cs : List Callback) :
    r.run (c :: cs) =
      ({ r with failure := some e }, List.replicate (cs.length + 1) (.error e)) := by
  have hrest : ({ r with failure := some e } : Recorder).run cs = _ := run_of_failure rfl cs
  simp only [run, step_of_malformed hr hc, hrest]
  rfl

/-- **A run of readable callbacks** is recorded whole. -/
theorem run_fresh_of_readable {cs : List Callback} (h : ∀ c ∈ cs, ¬c.Malformed) :
    ∃ records, cs.map Callback.record = records.map Except.ok ∧
      List.Forall₂ Callback.Reported cs records ∧
      fresh.run cs = (⟨.ofList records, none⟩, List.replicate cs.length (.ok ())) := by
  obtain ⟨records, hrecords, hreported⟩ := exists_records h
  refine ⟨records, hrecords, hreported, ?_⟩
  have hlog : Log.empty.append records = .ofList records := Log.ext_toList (by simp)
  rw [run_of_records rfl hrecords, ← hlog]
  rfl

/-- **A run with a malformed callback** is recorded up to there, and refused from there on
with the first malformed id of that callback. -/
theorem run_fresh_of_malformed {before : List Callback} {c : Callback}
    (hbefore : ∀ q ∈ before, ¬q.Malformed) (hc : c.Malformed) (after : List Callback) :
    ∃ records id, List.Forall₂ Callback.Reported before records ∧
      (c.carried.find? fun id => Unreadable id) = some id ∧
      fresh.run (before ++ c :: after) =
        (⟨.ofList records, some ⟨id⟩⟩, List.replicate before.length (.ok ()) ++
          List.replicate (after.length + 1) (.error ⟨id⟩)) := by
  obtain ⟨records, -, hreported, hrun⟩ := run_fresh_of_readable hbefore
  obtain ⟨id, hfind, hrecord⟩ := Callback.record_of_malformed hc
  refine ⟨records, id, hreported, hfind, ?_⟩
  rw [run_append, hrun]
  simp only [run_of_malformed (r := ⟨.ofList records, none⟩) rfl hrecord]

/-- **A recorder keeps what comes before the first malformed callback.** With `k` the
position of that callback, or the length of the run if there is none, the log holds the
reports of the first `k` callbacks, which are all accepted. If there is a malformed callback,
it and all after it are refused with the first malformed id it carries, which is also what
the recorder answers in place of a log. -/
theorem run_fresh_up_to_malformed (cs : List Callback) :
    let k := cs.findIdx fun c => c.Malformed
    let (recorder, answers) := fresh.run cs
    List.Forall₂ Callback.Reported (cs.take k) recorder.log.toList ∧
      match cs[k]? with
      | none =>
        answers = List.replicate cs.length (.ok ()) ∧ recorder.failure = none ∧
          recorder.finished = .ok recorder.log
      | some c => ∃ id, (c.carried.find? fun id => Unreadable id) = some id ∧
          answers = List.replicate k (.ok ()) ++ List.replicate (cs.length - k) (.error ⟨id⟩) ∧
          recorder.failure = some ⟨id⟩ ∧ recorder.finished = .error ⟨id⟩ := by
  intro k
  have hbefore : ∀ c ∈ cs.take k, ¬c.Malformed := by
    intro c hc
    obtain ⟨i, hi, rfl⟩ := List.mem_take_iff_getElem.mp hc
    simpa using List.not_of_lt_findIdx (Nat.lt_of_lt_of_le hi (Nat.min_le_left _ _))
  rcases hk : cs[k]? with _ | c
  · -- there is no malformed callback, so the first stretch is the whole run
    rw [List.take_of_length_le (List.getElem?_eq_none_iff.mp hk)] at hbefore ⊢
    obtain ⟨records, -, hreported, hrun⟩ := run_fresh_of_readable hbefore
    rw [hrun]
    exact ⟨hreported, rfl, rfl, rfl⟩
  · obtain ⟨hlt, hget⟩ := List.getElem?_eq_some_iff.mp hk
    have hmalformed : c.Malformed := by
      rw [← hget]
      simpa using List.findIdx_getElem (w := hlt)
    obtain ⟨records, id, hreported, hfind, hrun⟩ :=
      run_fresh_of_malformed hbefore hmalformed (cs.drop (k + 1))
    have hsplit : cs.take k ++ c :: cs.drop (k + 1) = cs := by
      rw [← hget, ← List.drop_eq_getElem_cons hlt, List.take_append_drop]
    rw [hsplit] at hrun
    have hcount : (cs.drop (k + 1)).length + 1 = cs.length - k := by
      rw [List.length_drop]
      omega
    rw [hrun, List.length_take, Nat.min_eq_left (Nat.le_of_lt hlt), hcount]
    exact ⟨hreported, id, hfind, rfl, rfl, rfl⟩

end ScanAudit.Recorder
