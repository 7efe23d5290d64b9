import ScanAudit.Direction

/-!
# Violations

A check either passes or says what is wrong with the log, naming the records, positions
and regions one needs to find the place in the graph. Positions count from zero.
-/

namespace ScanAudit

/-- **One end of a branch**, as a side on which events can be missing. -/
inductive BranchSide
  /-- The events that start a branch. -/
  | start
  /-- The events that end a branch. -/
  | finish
deriving DecidableEq

namespace BranchSide

/-- The name of a side. -/
def name : BranchSide → String
  | start => "Start"
  | finish => "End"

/-- The side as it is called in messages. -/
def phrase : BranchSide → String
  | start => "branch start"
  | finish => "branch end"

/-- The other side. -/
def opposite : BranchSide → BranchSide
  | start => finish
  | finish => start

end BranchSide

/-- **What is wrong with a log.** -/
inductive Violation
  /-- The record at `index` was already seen at `firstIndex`. -/
  | duplicate (record : Record) (firstIndex index : Nat)
  /-- The record at `index` is about a region and does not name it. -/
  | missingRegion (record : Record) (index : Nat)
  /-- The event at `index` closes the region `closed` while the innermost open region is
  `innermost`. -/
  | regionMismatch (innermost closed : NodeId) (index : Nat)
  /-- These regions, innermost first, are still open at the end of the log. -/
  | unclosedRegions (regions : List NodeId) (direction : Direction)
  /-- A region has branch starts and branch ends, but not equally many. -/
  | branchCounts (region : NodeId) (starts ends : Nat)
  /-- A region has branch events on one side and none on the other. -/
  | branchSideMissing (region : NodeId) (missing : BranchSide)
deriving DecidableEq

namespace Violation

/-- The name of a kind of violation. -/
def name : Violation → String
  | duplicate .. => "DuplicateEvent"
  | missingRegion .. => "MissingRegion"
  | regionMismatch .. => "RegionMismatch"
  | unclosedRegions .. => "UnmatchedRegionEnd"
  | branchCounts .. => "BranchCountMismatch"
  | branchSideMissing .. => "BranchKeyMismatch"

/-- **The message of a violation**, on one line and with every detail of it. -/
def message : Violation → String
  | duplicate record firstIndex index =>
    "duplicate call at index " ++ Decimal.plain index ++ " (first seen at " ++
      Decimal.plain firstIndex ++ "): " ++ record.text
  | missingRegion record index =>
    "parallel event at index " ++ Decimal.plain index ++ " has no parallel region id: " ++
      record.text
  | regionMismatch innermost closed index =>
    "parallel start and end events point to different parallel region ids: open region " ++
      innermost.text ++ ", closed by event at index " ++ Decimal.plain index ++ " for region " ++
      closed.text
  | unclosedRegions regions direction =>
    direction.openKind.name ++ " events with no matching " ++ direction.closeKind.name ++
      " for parallel region(s) with start node ids: " ++
      ", ".intercalate (regions.map NodeId.text)
  | branchCounts region starts ends =>
    "parallel region " ++ region.text ++ " has " ++ Decimal.plain starts ++
      " branch start event(s) but " ++ Decimal.plain ends ++ " branch end event(s)"
  | branchSideMissing region missing =>
    "parallel region " ++ region.text ++ " has " ++ missing.opposite.phrase ++
      " event(s) but no " ++ missing.phrase ++ " event(s)"

end Violation

end ScanAudit
