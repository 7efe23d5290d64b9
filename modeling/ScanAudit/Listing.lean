import ScanAudit.Check.Report
import ScanAudit.Log
import ScanAudit.Sink

/-!
# Listings

A log is listed one record a line, each after its position. A report is listed as one
line with the verdict, followed by one line for each violation. A listing is defined as
the list of its lines, each with its end; writing it to a sink stops at the first line
that does not fit.
-/

namespace ScanAudit

/-- The line of the record at a position. The position fills a field of four
characters, so that the records of a log of up to ten thousand stand in a column. -/
def Record.listing (r : Record) (index : Nat) : String :=
  "#" ++ Layout.alignLeft 4 (Decimal.plain index) ++ " " ++ r.text ++ "\n"

namespace Log

/-- **The lines of a log**, one for each record. -/
def lines (log : Log) : List String :=
  log.toList.zipIdx.map fun x => x.1.listing x.2

/-- The listing of a log, as one text. -/
def listing (log : Log) : String :=
  String.join log.lines

/-- Writing the listing of a log to a sink. -/
def write (log : Log) (sink : Sink) : Sink × Except WriteError Unit :=
  sink.writeAll log.lines

end Log

namespace Report

/-- The line with the verdict. -/
def headline (r : Report) : String :=
  "[checks] " ++ Decimal.plain r.events ++ " events, " ++
    (if r.passed then "all checks passed"
      else Decimal.plain r.failures.length ++ " check(s) failed") ++ "\n"

/-- **The lines of a report**: the verdict, then the violations in order. -/
def lines (r : Report) : List String :=
  r.headline :: r.failures.map fun v => "  - " ++ v.message ++ "\n"

/-- The listing of a report, as one text. -/
def listing (r : Report) : String :=
  String.join r.lines

/-- Writing the listing of a report to a sink. -/
def write (r : Report) (sink : Sink) : Sink × Except WriteError Unit :=
  sink.writeAll r.lines

end Report

end ScanAudit
