import ScanAudit.Export
import ScanAudit.Inspect
import ScanAudit.Listing
import ScanAudit.Pass

/-!
# A scripted session

The demonstration replays the callbacks of one of two scripted scans of a small
pipeline. In execution order, node 2 starts the pipeline and node 16 ends it; region 4
forks into two branches, of which the second contains region 12, and joins at node 11.

* The *complete* scan meets the whole pipeline, newest node first.
* The *in-progress* scan began while region 4 was still running, so the region's end is
  not there yet.

A session prints the callbacks as they come, then lists the recorded log and the report
of the checks, and stores the export of the log. Whatever goes wrong ends it: a fault
of the scan or a line without a margin before anything is listed, a failure to store after
everything is listed, and a violation at the very end.
-/

namespace ScanAudit.Demo

/-! ### The scripts -/

/-- The scan of the finished pipeline. -/
def completePass : List Callback := [
  .chunkEnd "16" none,
  .atom (some "11") "16" none,
  .parallelEnd "4" "11",
  .branchEnd "4" "10",
  .parallelEnd "12" "15",
  .branchEnd "12" "14",
  .branchStart "12" "14",
  .branchEnd "12" "13",
  .branchStart "12" "13",
  .parallelStart "12" "13",
  .branchStart "4" "6",
  .branchEnd "4" "9",
  .atom (some "5") "7" (some "9"),
  .branchStart "4" "5",
  .parallelStart "4" "5",
  .atom (some "2") "3" (some "4"),
  .chunkStart "2" none]

/-- The scan of the pipeline while both branches of region 4 were running. -/
def inProgressPass : List Callback := [
  .atom (some "5") "7" none,
  .atom (some "4") "6" none,
  .parallelStart "4" "5",
  .atom (some "2") "3" (some "4"),
  .chunkStart "2" none]

/-- The argument that asks for the in-progress scan. -/
def inProgressFlag : String :=
  "--in-progress"

/-- **The script the arguments ask for**; arguments other than the flag are ignored. -/
def script (args : List String) : List Callback :=
  if inProgressFlag ∈ args then inProgressPass else completePass

/-! ### Sessions -/

/-- **Why the export could not be stored**, as the system reports it. -/
structure StorageError where
  /-- The system's number for the error. -/
  code : Nat
  /-- The kind of error. -/
  kind : String
  /-- The error in words. -/
  message : String
deriving DecidableEq

/-- What the system reports when a directory stands where the export should go. -/
def StorageError.isDirectory : StorageError :=
  ⟨21, "IsADirectory", "Is a directory"⟩

/-- **What can end a session.** -/
inductive Failure
  /-- The program was stopped by a line without a margin. -/
  | stopped
  /-- A visitor refused a callback. -/
  | scan (f : Fault)
  /-- The recording had failed. -/
  | recording (e : MalformedId)
  /-- The export could not be stored. -/
  | storage (e : StorageError)
  /-- A check found a violation. -/
  | check (v : Violation)

/-- A failure in words, as it is inspected. A stop is told in the words of the program, without
the place where it happened. -/
def Failure.text : Failure → String
  | stopped => Printer.stopMessage
  | scan f => "Error: " ++ Inspect.fault f
  | recording m => "Error: " ++ Inspect.malformed m
  | storage s => "Error: " ++ Inspect.structText "Os" [
    ("code", Decimal.plain s.code), ("kind", s.kind), ("message", Quoted.quote s.message)]
  | check v => "Error: " ++ Inspect.violation v

/-- The line a failed session ends with. -/
def Failure.report (e : Failure) : String :=
  e.text ++ "\n"

/-- The status a failed session ends with. -/
def Failure.status : Failure → Nat
  | stopped => 101
  | _ => 1

/-- **A session up to the export**: all that was printed, and, unless it has failed
already, the text to store and the report. -/
structure Session where
  /-- The bytes printed. -/
  printed : ByteArray
  /-- The export of the log and the report on it, or what went wrong. -/
  result : Except Failure (String × Report)

namespace Session

/-- The name of the file that takes the export. -/
def storeName : String :=
  "events.json"

/-- **The session of a script**: the scan runs backward. -/
def play (calls : List Callback) : Session :=
  match (Pass.fresh .backward).replay calls with
  | (pass, .stopped) => ⟨pass.printer.sink.bytes, .error .stopped⟩
  | (pass, .refused (_, f)) => ⟨pass.printer.sink.bytes, .error (.scan f)⟩
  | (pass, .accepted) =>
    match pass.recorder.finished with
    | .error e => ⟨pass.printer.sink.bytes, .error (.recording e)⟩
    | .ok log =>
      let report := Report.audit .backward log.toList
      let listed := (log.listing ++ report.listing).toUTF8
      ⟨pass.printer.sink.bytes ++ listed, .ok (log.json.text, report)⟩

/-- **The end of a session**, given how storing the export went. -/
def conclude (report : Report) (stored : Except StorageError Unit) : Except Failure Unit :=
  match stored with
  | .error e => .error (.storage e)
  | .ok () => report.outcome.mapError .check

end Session

end ScanAudit.Demo
