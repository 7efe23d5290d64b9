import ScanAudit.Check.Violation

/-!
# Balance of regions

The events that open and close parallel regions are matched like brackets. The check
walks over the log with the regions that are open, innermost first. An opening event
puts its region in front; a closing event must name the region in front, which it takes
away. Only the innermost region is ever compared.

A closing event with no region open is accepted: the region it closes was still running
when the scan began, so its other end was never there to be reported. No region may be
open at the end.
-/

namespace ScanAudit.Regions

/-- **One record**, at position `index`, with the regions open before it, innermost
first: the regions open after it. -/
def step (d : Direction) (pending : List NodeId) (index : Nat) (r : Record) :
    Except Violation (List NodeId) :=
  match d.role r.kind with
  | .neutral => .ok pending
  | .opens =>
    match r.region with
    | none => .error (.missingRegion r index)
    | some region => .ok (region :: pending)
  | .closes =>
    match r.region, pending with
    | none, _ => .error (.missingRegion r index)
    | some _, [] => .ok []
    | some region, innermost :: rest =>
      if innermost = region then .ok rest
      else .error (.regionMismatch innermost region index)

/-- **A walk over records** from position `index` on: the regions open at its end, or the
first violation. -/
def scan (d : Direction) (pending : List NodeId) (index : Nat) :
    List Record → Except Violation (List NodeId)
  | [] => .ok pending
  | r :: rest =>
    match step d pending index r with
    | .ok pending' => scan d pending' (index + 1) rest
    | .error v => .error v

/-- What the regions open at the end of a log say about it. -/
def verdict (d : Direction) : List NodeId → Except Violation Unit
  | [] => .ok ()
  | pending => .error (.unclosedRegions pending d)

/-- **Regions open and close like brackets**; else the first event that breaks the
nesting, or else the regions that are never closed. -/
def check (d : Direction) (records : List Record) : Except Violation Unit :=
  match scan d [] 0 records with
  | .ok pending => verdict d pending
  | .error v => .error v

/-- **A walk over two stretches of a log** is a walk over the first and, if that finds
nothing wrong, a walk over the second from where it ended. -/
theorem scan_append (d : Direction) (pending : List NodeId) (index : Nat) (a b : List Record) :
    scan d pending index (a ++ b) =
      match scan d pending index a with
      | .ok pending' => scan d pending' (index + a.length) b
      | .error v => .error v := by
  induction a generalizing pending index with
  | nil => rfl
  | cons r a ih =>
    rw [List.cons_append, scan, scan]
    cases step d pending index r with
    | error v => rfl
    | ok pending' =>
      simp only [ih, List.length_cons]
      rw [Nat.add_right_comm index 1 a.length, ← Nat.add_assoc]

end ScanAudit.Regions
