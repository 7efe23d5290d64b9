import ScanAudit.Check.Report
import ScanAudit.Recorder

/-!
# Notes of a session

While it works, the library keeps a diary. Each accepted callback is noted with the
position and the text of its record. The callback that ends the recording is noted once,
and nothing is noted about the callbacks after it. When the checks have all run, each is
noted with its result, and at last the export of the log is noted.
-/

namespace ScanAudit

/-- **How much a note matters.** -/
inductive Level
  /-- It follows the work step by step. -/
  | trace
  /-- It marks the end of a stage of the work. -/
  | debug
  /-- It tells that something is wrong with the log. -/
  | warn
deriving DecidableEq

/-- The name of a level. -/
def Level.name : Level → String
  | trace => "TRACE"
  | debug => "DEBUG"
  | warn => "WARN"

/-- **An entry of the diary.** -/
inductive Note
  /-- A record was added at a position. -/
  | recorded (index : Nat) (record : Record)
  /-- A malformed id ended the recording. -/
  | aborted (failure : MalformedId)
  /-- A check of a log with so many records passed. -/
  | checkPassed (check : Check) (events : Nat)
  /-- A check found a violation. -/
  | checkFailed (check : Check) (violation : Violation)
  /-- A log with so many records was exported. -/
  | exported (events : Nat)
deriving DecidableEq

namespace Note

/-- The level of a note: only a violation is a warning. -/
def level : Note → Level
  | recorded .. => .trace
  | aborted .. => .debug
  | checkPassed .. => .debug
  | checkFailed .. => .warn
  | exported .. => .debug

/-- What happened, in words. -/
def message : Note → String
  | recorded .. => "recorded scan event"
  | aborted .. => "scan pass recording aborted"
  | checkPassed .. => "check passed"
  | checkFailed .. => "check failed"
  | exported .. => "exported event log"

/-- The details, by name. -/
def details : Note → List (String × String)
  | recorded index record => [("index", Decimal.plain index), ("record", record.text)]
  | aborted failure => [("err", failure.message)]
  | checkPassed check events => [("check", check.name), ("events", Decimal.plain events)]
  | checkFailed check violation => [("check", check.name), ("err", violation.message)]
  | exported events => [("events", Decimal.plain events)]

/-- **The note about one callback**, taken by a recorder in the given state. A recorder
that has failed takes no more notes. -/
def ofCallback? (r : Recorder) (c : Callback) : Option Note :=
  match r.failure with
  | some _ => none
  | none =>
    match c.record with
    | .ok record => some (.recorded r.log.size record)
    | .error e => some (.aborted e)

/-- **The notes about a run of callbacks**, taken by a recorder that starts in the given
state. -/
def ofRun (r : Recorder) : List Callback → List Note
  | [] => []
  | c :: cs => (ofCallback? r c).toList ++ ofRun (r.step c).1 cs

/-- The note about one check of a log. -/
def ofCheck (d : Direction) (records : List Record) (k : Check) : Note :=
  match k.violation? d records with
  | none => .checkPassed k records.length
  | some v => .checkFailed k v

/-- **The notes about the checks** of a log, in the order of the checks. -/
def ofAudit (d : Direction) (records : List Record) : List Note :=
  Check.all.map (ofCheck d records)

/-- **The notes of a whole session**: a pass is recorded, going on after a failure, and
whatever was recorded is checked and exported. -/
def ofSession (d : Direction) (pass : List Callback) : List Note :=
  let log := (Recorder.fresh.run pass).1.log
  ofRun Recorder.fresh pass ++ ofAudit d log.toList ++ [.exported log.size]

end Note

end ScanAudit
