import ScanAudit.Export
import ScanAudit.Note

/-!
# What the notes of a session tell

The notes of a session mirror its outcome: whoever reads them knows what was recorded, whether
the recording was ended and by which id, and how every check went. Nothing is noted twice, and
nothing is left out.

While the callbacks come in, notes are taken one at a time, and a recorder that has failed takes
none at all. So what has been noted so far can be read off the state of the recorder alone
(`ScanAudit.Note.ofRecorder`): the records of its log by position, and behind them its failure.
A callback adds to this exactly the note that is taken about it
(`ScanAudit.Note.ofRecorder_step`), which carries over to a whole run
(`ScanAudit.Note.ofRecorder_run`). That a failure is noted once and that no record is noted
behind it needs no argument of its own.

The notes about the checks and about the export are taken when all is done, one for each.
-/

namespace ScanAudit

/-- The malformed id for which a callback is refused, if it is. -/
def Callback.refusal? (c : Callback) : Option MalformedId :=
  match c.record with
  | .ok _ => none
  | .error e => some e

/-- **A recorder fails with the first refusal**, if it has not failed already. -/
theorem Recorder.failure_run (r : Recorder) (cs : List Callback) :
    (r.run cs).1.failure = r.failure.or (cs.findSome? Callback.refusal?) := by
  induction cs generalizing r with
  | nil => simp [run]
  | cons c cs ih =>
    simp only [run, ih, List.findSome?_cons]
    rcases hfailure : r.failure with _ | e
    · rcases hc : c.record with e | record
      · simp [step_of_malformed hfailure hc, Callback.refusal?, hc]
      · simp [step_of_record hfailure hc, Callback.refusal?, hc, hfailure]
    · simp [step_of_failure hfailure, hfailure]

namespace Note

/-- **A note as it is written down**: the name of its level, what happened, and the details. -/
def entry (n : Note) : String × String × List (String × String) :=
  (n.level.name, n.message, n.details)

/-! ### Notes about callbacks -/

/-- **The notes that a recorder has left behind**: every record of its log at its position, and
at last what ended the recording. -/
def ofRecorder (r : Recorder) : List Note :=
  r.log.toList.zipIdx.map (fun x => .recorded x.2 x.1) ++ r.failure.toList.map .aborted

/-- **One callback** adds to the notes what is noted about it. -/
theorem ofRecorder_step (r : Recorder) (c : Callback) :
    ofRecorder (r.step c).1 = ofRecorder r ++ (ofCallback? r c).toList := by
  rcases hfailure : r.failure with _ | e
  · rcases hc : c.record with e | record
    · simp [Recorder.step_of_malformed hfailure hc, ofRecorder, ofCallback?, hfailure, hc]
    · simp [Recorder.step_of_record hfailure hc, ofRecorder, ofCallback?, hfailure, hc,
        List.zipIdx_append]
  · simp [Recorder.step_of_failure hfailure, ofCallback?, hfailure]

/-- **A whole run** adds to the notes what is noted about it. -/
theorem ofRecorder_run (r : Recorder) (cs : List Callback) :
    ofRecorder (r.run cs).1 = ofRecorder r ++ ofRun r cs := by
  induction cs generalizing r with
  | nil => simp [Recorder.run, ofRun]
  | cons c cs ih =>
    simp only [Recorder.run, ofRun, ih, ofRecorder_step, List.append_assoc]

/-- **What is noted about a pass** is what the recorder has in the end. -/
theorem ofRun_fresh (cs : List Callback) :
    ofRun .fresh cs = ofRecorder (Recorder.fresh.run cs).1 := by
  rw [ofRecorder_run]
  rfl

/-- What comes behind a malformed callback is not noted, even if it is readable. -/
example : ofRun .fresh [.atom none "7" none, .atom none "x" none, .atom none "8" none] =
    [.recorded 0 (.atom none ⟨7, by decide⟩ none), .aborted ⟨"x"⟩] := by decide

/-! ### Notes about checks -/

/-- **The result of a check as it is written down**: that the check passed, with the number of
records, or else what it found. -/
def verdict (check : String) (events : Nat) :
    Except Violation Unit → String × String × List (String × String)
  | .ok () => ("DEBUG", "check passed", [("check", check), ("events", Decimal.plain events)])
  | .error v => ("WARN", "check failed", [("check", check), ("err", v.message)])

section Checks

variable {d : Direction} {records : List Record}

theorem entry_ofCheck (k : Check) :
    (ofCheck d records k).entry = verdict k.name records.length (k.run d records) := by
  rw [ofCheck, Check.violation?]
  rcases k.run d records with v | ⟨⟩ <;> rfl

/-- **The checks are noted one by one**, in their order and under their names. -/
theorem map_entry_ofAudit :
    (ofAudit d records).map entry =
      [verdict "duplicates" records.length (Duplicates.check records),
        verdict "region balance" records.length (Regions.check d records),
        verdict "branch symmetry" records.length (Branches.check records)] := by
  simp only [ofAudit, Check.all, List.map_cons, List.map_nil, entry_ofCheck]
  rfl

/-- **Only a violation is a warning**, and there is one for each check that finds one. -/
theorem filter_warn_ofAudit :
    (ofAudit d records).filter (fun n => n.level = .warn) =
      Check.all.filterMap fun k => (k.violation? d records).map (checkFailed k) := by
  rw [ofAudit, ← List.filterMap_eq_filter, List.filterMap_map]
  refine congrArg (List.filterMap · Check.all) (funext fun k => ?_)
  rw [Function.comp_apply, ofCheck]
  rcases k.violation? d records with _ | v <;> rfl

end Checks

/-- A recorder never warns. -/
theorem filter_warn_ofRecorder (r : Recorder) :
    (ofRecorder r).filter (fun n => n.level = .warn) = [] := by
  rw [List.filter_eq_nil_iff]
  intro n hn
  rcases List.mem_append.mp hn with hrecord | hfailure
  · obtain ⟨x, -, rfl⟩ := List.mem_map.mp hrecord
    simp [level]
  · obtain ⟨e, -, rfl⟩ := List.mem_map.mp hfailure
    simp [level]

/-! ### Whole sessions -/

/-- **The notes of a session mirror its outcome**, whatever the callbacks and their ids, and in
either direction.

* First comes every record of the log, at its position and by its text; then, if the recording
  was ended, the malformed id that ended it; then the three checks in their order, each by its
  result; and at last the export, with the number of records. There is nothing else.
* What ended the recording is the first malformed id of all.
* The warnings are the failures of the report, in the same order.
* The export that is noted does not fail: it has room for everything. -/
theorem ofSession_mirrors_outcome (d : Direction) (cs : List Callback) :
    let recorder := (Recorder.fresh.run cs).1
    let records := recorder.log.toList
    (ofSession d cs).map entry =
        records.zipIdx.map (fun x => ("TRACE", "recorded scan event",
          [("index", Decimal.plain x.2), ("record", x.1.text)])) ++
        recorder.failure.toList.map (fun e => ("DEBUG", "scan pass recording aborted",
          [("err", e.message)])) ++
        [verdict "duplicates" records.length (Duplicates.check records),
          verdict "region balance" records.length (Regions.check d records),
          verdict "branch symmetry" records.length (Branches.check records)] ++
        [("DEBUG", "exported event log", [("events", Decimal.plain records.length)])] ∧
      recorder.failure = cs.findSome? Callback.refusal? ∧
      ((ofSession d cs).filter fun n => n.level = .warn).map (fun n => n.details.lookup "err") =
        (Report.audit d records).failures.map (fun v => some v.message) ∧
      (recorder.log.writeJson .unlimited).2 = .ok () := by
  intro recorder records
  have hnotes : ofSession d cs =
      ofRecorder recorder ++ ofAudit d records ++ [.exported records.length] := by
    rw [ofSession, ofRun_fresh, Log.length_toList]
  refine ⟨?_, ?_, ?_, ?_⟩
  · rw [hnotes, List.map_append, List.map_append, map_entry_ofAudit, ofRecorder,
      List.map_append, List.map_map, List.map_map]
    rfl
  · rw [Recorder.failure_run]
    rfl
  · have herr (k : Check) (v : Violation) :
        (checkFailed k v).details.lookup "err" = some v.message := rfl
    rw [hnotes, List.filter_append, List.filter_append, filter_warn_ofRecorder,
      filter_warn_ofAudit]
    simp [Report.audit, List.map_filterMap, level, herr, Function.comp_def]
  · rw [Log.writeJson, Sink.writeAll_unlimited]

end Note

end ScanAudit
