import ScanAudit.Check.Report
import ScanAudit.Visitor

/-!
# Inspection texts

Beside the text meant for a reader of a log, every value has an inspection text that
shows how it is built: the name of its type and its components, all on one line. The
shapes of these texts are few (`structText`, `tupleText`, `listText`, `optionText`);
the rest of this module only says which components a value shows, and under which
names.
-/

namespace ScanAudit.Inspect

/-! ### Shapes -/

/-- One component under its name. -/
def fieldText (field : String × String) : String :=
  field.1 ++ ": " ++ field.2

/-- A value with named components. -/
def structText (name : String) (fields : List (String × String)) : String :=
  name ++ " \x7b " ++ ", ".intercalate (fields.map fieldText) ++ " \x7d"

/-- A value with named components of which some are not shown. -/
def openStructText (name : String) (fields : List (String × String)) : String :=
  name ++ " \x7b " ++ ", ".intercalate (fields.map fieldText) ++ ", .. \x7d"

/-- A value with one component without a name. -/
def tupleText (name component : String) : String :=
  name ++ "(" ++ component ++ ")"

/-- A sequence of values. -/
def listText (items : List String) : String :=
  "[" ++ ", ".intercalate items ++ "]"

/-- A value that may be absent. -/
def optionText : Option String → String
  | none => "None"
  | some component => tupleText "Some" component

/-! ### Values -/

/-- A node number. -/
def node (n : NodeId) : String :=
  tupleText "NodeRef" n.text

/-- A malformed id, the id itself in quotes. -/
def malformed (e : MalformedId) : String :=
  structText "MalformedNodeId" [("id", Quoted.quote e.id)]

/-- A record with all its slots. -/
def record (r : Record) : String :=
  structText "EventRecord" [
    ("kind", r.kind.name),
    ("slots", listText (r.slots.map fun slot => optionText (slot.map node)))]

/-- A log. -/
def log (l : Log) : String :=
  structText "EventLog" [("records", listText (l.toList.map record))]

/-- A recorder. -/
def recorder (r : Recorder) : String :=
  structText "RecordingVisitor" [
    ("log", log r.log), ("failure", optionText (r.failure.map malformed))]

/-- A printer, without what it has written. -/
def printer (p : Printer) : String :=
  openStructText "PrettyPrintVisitor" [
    ("direction", p.direction.name), ("depth", Decimal.plain p.depth)]

/-- A violation. -/
def violation (v : Violation) : String :=
  structText v.name <| match v with
    | .duplicate r firstIndex index => [
      ("record", record r), ("first_index", Decimal.plain firstIndex),
      ("index", Decimal.plain index)]
    | .missingRegion r index => [("record", record r), ("index", Decimal.plain index)]
    | .regionMismatch innermost closed index => [
      ("open", node innermost), ("closed", node closed), ("index", Decimal.plain index)]
    | .unclosedRegions regions direction => [
      ("regions", listText (regions.map node)), ("direction", direction.name)]
    | .branchCounts region starts ends => [
      ("region", node region), ("starts", Decimal.plain starts), ("ends", Decimal.plain ends)]
    | .branchSideMissing region missing => [("region", node region), ("missing", missing.name)]

/-- A report. -/
def report (r : Report) : String :=
  structText "CheckReport" [
    ("events", Decimal.plain r.events), ("failures", listText (r.failures.map violation))]

/-- A failed write. -/
def writeError : WriteError → String
  | .diskFull => structText "Custom" [("kind", "Other"), ("error", "\"disk full\"")]

/-- The fault of a leaf. -/
def leafFault : LeafFault → String
  | .malformed e => malformed e
  | .write e => writeError e
  | .refused id => Quoted.quote id

/-- The fault of a visitor. -/
def fault : Fault → String
  | .leaf f => leafFault f
  | .first f => tupleText "First" (fault f)
  | .second f => tupleText "Second" (fault f)

end ScanAudit.Inspect
