import ScanAudit.Check.Violation

/-!
# Symmetry of branches

Every branch of a parallel region is reported at its start and at its end, so a region
has as many branch starts as branch ends. The order of these events and the nodes at
which the branches start and end do not matter; only their regions are counted.

The check first collects the region of every branch event, and fails at the first event
that names none. Then it looks at the regions with a branch start, in increasing order,
and at last at the regions that have branch ends only.
-/

namespace ScanAudit.Branches

/-- **The regions of the branch events of a log**, in log order and with repetitions. -/
structure Tally where
  /-- The region of each branch start. -/
  starts : List NodeId
  /-- The region of each branch end. -/
  ends : List NodeId
deriving DecidableEq

/-- The side of a branch an event is about, if it is about one. -/
def side? : Kind → Option BranchSide
  | .branchStart => some .start
  | .branchEnd => some .finish
  | _ => none

/-- One more event for a region, on the given side. -/
def Tally.add (t : Tally) (region : NodeId) : BranchSide → Tally
  | .start => { t with starts := region :: t.starts }
  | .finish => { t with ends := region :: t.ends }

/-- **The tally of a log** from position `index` on, or the first branch event without a
region. -/
def tally (index : Nat) : List Record → Except Violation Tally
  | [] => .ok ⟨[], []⟩
  | r :: rest =>
    match side? r.kind with
    | none => tally (index + 1) rest
    | some side =>
      match r.region with
      | none => .error (.missingRegion r index)
      | some region => (tally (index + 1) rest).map fun t => t.add region side

/-- Each of the regions once, in increasing order. -/
def ascending (regions : List NodeId) : List NodeId :=
  regions.eraseDups.mergeSort fun a b => a.number ≤ b.number

/-- What is wrong with a region that has branch starts, if anything is. -/
def Tally.unequal? (t : Tally) (region : NodeId) : Option Violation :=
  let starts := t.starts.count region
  let ends := t.ends.count region
  if ends = 0 then some (.branchSideMissing region .finish)
  else if starts ≠ ends then some (.branchCounts region starts ends)
  else none

/-- What is wrong with a region that has branch ends: that it has no branch start. -/
def Tally.startless? (t : Tally) (region : NodeId) : Option Violation :=
  if region ∈ t.starts then none else some (.branchSideMissing region .start)

/-- **The first violation of a tally**: regions with branch starts come before regions
without, and smaller regions before larger ones. -/
def Tally.violation? (t : Tally) : Option Violation :=
  ((ascending t.starts).findSome? t.unequal?).or ((ascending t.ends).findSome? t.startless?)

/-- **Every region has as many branch starts as branch ends**; else the first branch
event that names no region, or else the first region out of balance. -/
def check (records : List Record) : Except Violation Unit :=
  match tally 0 records with
  | .error v => .error v
  | .ok t =>
    match t.violation? with
    | some v => .error v
    | none => .ok ()

end ScanAudit.Branches
