import ScanAudit.Check.Violation

/-!
# Repeated records

A pass reports every event once. The check walks over the log with the records already
seen and stops at the first one that is among them, naming the position at which it was
seen before. There is only one such position, since the records before the first repeat
are all different.
-/

namespace ScanAudit.Duplicates

/-- The walk over `rest`, the records `seen` having been found to be all different. -/
def scan (seen : List Record) : List Record → Except Violation Unit
  | [] => .ok ()
  | r :: rest =>
    match seen.idxOf? r with
    | some first => .error (.duplicate r first seen.length)
    | none => scan (seen ++ [r]) rest

/-- **No record occurs twice**; else the first repeat. -/
def check (records : List Record) : Except Violation Unit :=
  scan [] records

end ScanAudit.Duplicates
