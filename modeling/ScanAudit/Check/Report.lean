import ScanAudit.Check.Branches
import ScanAudit.Check.Duplicates
import ScanAudit.Check.Regions

/-!
# Reports

The three checks of a log are independent: each looks at the whole log, whatever the
others found. A report holds the violations in the order of the checks, at most one for
each.
-/

namespace ScanAudit

/-- **The checks of a log.** -/
inductive Check
  /-- No event is reported twice. -/
  | duplicates
  /-- Regions open and close like brackets. -/
  | regionBalance
  /-- Every region has as many branch starts as branch ends. -/
  | branchSymmetry
deriving DecidableEq

namespace Check

/-- All checks, in the order in which they report. -/
def all : List Check :=
  [duplicates, regionBalance, branchSymmetry]

/-- The name of a check. -/
def name : Check → String
  | duplicates => "duplicates"
  | regionBalance => "region balance"
  | branchSymmetry => "branch symmetry"

/-- **One check** of a log that was recorded in the given direction. -/
def run (d : Direction) (records : List Record) : Check → Except Violation Unit
  | duplicates => Duplicates.check records
  | regionBalance => Regions.check d records
  | branchSymmetry => Branches.check records

/-- The violation a check finds, if it finds one. -/
def violation? (d : Direction) (records : List Record) (k : Check) : Option Violation :=
  match k.run d records with
  | .ok () => none
  | .error v => some v

end Check

/-- **What the checks found in a log.** -/
structure Report where
  /-- How many records the log has. -/
  events : Nat
  /-- The violations, in the order of the checks. -/
  failures : List Violation
deriving DecidableEq

namespace Report

/-- **All checks of a log** that was recorded in the given direction. -/
def audit (d : Direction) (records : List Record) : Report :=
  ⟨records.length, Check.all.filterMap (Check.violation? d records)⟩

/-- Whether every check passed. -/
def passed (r : Report) : Bool :=
  r.failures.isEmpty

/-- Success if every check passed, else the first violation. -/
def outcome (r : Report) : Except Violation Unit :=
  match r.failures with
  | [] => .ok ()
  | v :: _ => .error v

end Report

end ScanAudit
