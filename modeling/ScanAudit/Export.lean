import ScanAudit.Check.Report
import ScanAudit.Json
import ScanAudit.Log
import ScanAudit.Sink

/-!
# JSON exports

A log is exported as an array with one object for each record. An object has the
position of the record, the name of its kind, all four slots, and once more the slots
the kind uses, each under its label. A report is exported as an object with the number of
records, the verdict, and for each violation its kind and its message.

Writing an export to a sink stops at the first piece of its text that does not fit.
-/

namespace ScanAudit

/-- A node that may be absent as JSON. -/
def NodeId.json : Option NodeId → Json
  | none => .null
  | some node => .number node.number

namespace Record

/-- The labelled slots of a record as members of an object. -/
def labelled (r : Record) : List (String × Json) :=
  (r.kind.labels.zip r.slots).filterMap fun x =>
    x.1.map fun label => (label, NodeId.json x.2)

/-- **The record at a position** as JSON. -/
def json (r : Record) (index : Nat) : Json :=
  .ofMembers [
    ("index", .number index),
    ("kind", .string r.kind.name),
    ("slots", .array (r.slots.map NodeId.json)),
    ("nodes", .ofMembers r.labelled)]

end Record

namespace Log

/-- **A log** as JSON: its records in order. -/
def json (log : Log) : Json :=
  .array (log.toList.zipIdx.map fun x => x.1.json x.2)

/-- Writing the export of a log to a sink. -/
def writeJson (log : Log) (sink : Sink) : Sink × Except WriteError Unit :=
  sink.writeAll (log.json.pieces 0)

end Log

namespace Violation

/-- A violation as JSON. -/
def json (v : Violation) : Json :=
  .ofMembers [("check", .string v.name), ("message", .string v.message)]

end Violation

namespace Report

/-- **A report** as JSON. -/
def json (r : Report) : Json :=
  .ofMembers [
    ("events", .number r.events),
    ("passed", .bool r.passed),
    ("failures", .array (r.failures.map Violation.json))]

/-- Writing the export of a report to a sink. -/
def writeJson (r : Report) (sink : Sink) : Sink × Except WriteError Unit :=
  sink.writeAll (r.json.pieces 0)

end Report

end ScanAudit
