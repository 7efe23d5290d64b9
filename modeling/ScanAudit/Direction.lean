import ScanAudit.Record

/-!
# Scan directions

A scan may walk the graph from the newest node back or from the oldest node on. The
direction decides which end of a parallel region comes first, and so which of the two
events opens the region and which closes it. Everything that nests by regions asks for
an event's *role* here; none of it looks at the kinds itself.
-/

namespace ScanAudit

/-- **The order in which a scan reports the graph.** -/
inductive Direction
  /-- Newest node first: a region's end comes before its start. -/
  | backward
  /-- Oldest node first: a region's start comes before its end. -/
  | forward
deriving DecidableEq

/-- **What an event does to the nesting of regions.** -/
inductive Role
  /-- It enters a region. -/
  | opens
  /-- It leaves a region. -/
  | closes
  /-- It does neither. -/
  | neutral
deriving DecidableEq

namespace Direction

/-- Scans run backward unless told otherwise. -/
instance : Inhabited Direction :=
  ⟨.backward⟩

/-- The name of a direction. -/
def name : Direction → String
  | backward => "Backward"
  | forward => "Forward"

/-- The kind of event that opens a region. -/
def openKind : Direction → Kind
  | backward => .parallelEnd
  | forward => .parallelStart

/-- The kind of event that closes a region. -/
def closeKind : Direction → Kind
  | backward => .parallelStart
  | forward => .parallelEnd

/-- **The role of an event** of the given kind. -/
def role (d : Direction) (k : Kind) : Role :=
  if k = d.openKind then .opens else if k = d.closeKind then .closes else .neutral

/-- The opposite direction. -/
def reverse : Direction → Direction
  | backward => forward
  | forward => backward

/-- No kind both opens and closes. -/
theorem openKind_ne_closeKind (d : Direction) : d.openKind ≠ d.closeKind := by
  cases d <;> decide

/-- An event opens a region exactly when it is of the opening kind. -/
theorem role_eq_opens_iff {d : Direction} {k : Kind} : d.role k = .opens ↔ k = d.openKind := by
  cases d <;> cases k <;> decide

/-- An event closes a region exactly when it is of the closing kind. -/
theorem role_eq_closes_iff {d : Direction} {k : Kind} : d.role k = .closes ↔ k = d.closeKind := by
  cases d <;> cases k <;> decide

/-- What opens in one direction closes in the other. -/
theorem openKind_reverse (d : Direction) : d.reverse.openKind = d.closeKind := by
  cases d <;> rfl

/-- What closes in one direction opens in the other. -/
theorem closeKind_reverse (d : Direction) : d.reverse.closeKind = d.openKind := by
  cases d <;> rfl

end Direction

end ScanAudit
