import ScanAudit.Printer
import ScanAudit.Recorder

/-!
# Visitors

What listens to a scan is a tree. Its leaves do the work: one ignores everything, one
records, one prints, one collects the ids of plain nodes. An inner node, a *tee*, hands
each callback to its first visitor and, if that accepts it, to its second. So a
callback travels over the leaves from left to right until one does not accept it; the leaves
behind that one never see it. The fault of a tree is the fault of the leaf that refused,
wrapped in the turns that lead from the root to it. A leaf that stops the program stops the
whole tree.

A pass can be heard in two ways. `ScanAudit.Visitor.run` goes on after refusals, and
`ScanAudit.Visitor.replay` gives up at the first fault, as a scan does.
-/

namespace ScanAudit

/-! ### Leaves -/

/-- **A collector of node ids**: it keeps the ids of the plain nodes it sees, and refuses
one particular id, if there is one. -/
structure Collector where
  /-- The id that is refused. -/
  refused : Option String
  /-- The ids accepted so far, oldest first. -/
  seen : List String
deriving DecidableEq

/-- One callback of a collector. Only plain nodes matter to it; a refused id is the
answer to the callback that brought it. -/
def Collector.step (k : Collector) : Callback → Collector × Except String Unit
  | .atom _ current _ =>
    if k.refused = some current then (k, .error current)
    else ({ k with seen := k.seen ++ [current] }, .ok ())
  | _ => (k, .ok ())

/-- **A visitor that does its own work.** -/
inductive Leaf
  /-- It ignores everything. -/
  | silent
  /-- It records. -/
  | recorder (state : Recorder)
  /-- It prints. -/
  | printer (state : Printer)
  /-- It collects the ids of plain nodes. -/
  | collector (state : Collector)

/-- **Why a leaf refused a callback.** -/
inductive LeafFault
  /-- An id names no node. -/
  | malformed (e : MalformedId)
  /-- The line of the callback could not be written. -/
  | write (e : WriteError)
  /-- The id of a plain node is the one that is refused. -/
  | refused (id : String)
deriving DecidableEq

/-- The message of a leaf's fault. -/
def LeafFault.message : LeafFault → String
  | malformed e => e.message
  | write e => e.message
  | refused id => id

namespace Leaf

/-- **One callback** of a leaf, and whether it was accepted. Only a printer can stop the
program. -/
def step : Leaf → Callback → Leaf × Answer LeafFault
  | silent, _ => (silent, .accepted)
  | recorder r, c =>
    let (r', result) := r.step c
    (recorder r', (Answer.ofExcept result).map .malformed)
  | printer p, c => let (p', answer) := p.step c; (printer p', answer.map .write)
  | collector k, c =>
    let (k', result) := k.step c
    (collector k', (Answer.ofExcept result).map .refused)

/-- Setting the room of a printer's sink anew; other leaves have none. -/
def allow (room : Option Nat) : Leaf → Leaf
  | printer p => printer (p.allow room)
  | l => l

/-- One cue; new room is never refused. -/
def perform (l : Leaf) : Cue → Leaf × Answer LeafFault
  | .call c => l.step c
  | .allow room => (l.allow room, .accepted)

/-- **A run of a leaf alone**, going on after refusals: the leaf at the end, and the answers. -/
def run (l : Leaf) (qs : List Cue) : Leaf × List (Answer LeafFault) :=
  runWith perform l qs

end Leaf

/-! ### Trees of leaves -/

/-- **A visitor**: a leaf, or a tee of two visitors. -/
inductive Visitor
  /-- A single leaf. -/
  | leaf (l : Leaf)
  /-- Two visitors, the second of which hears what the first accepted. -/
  | tee (first second : Visitor)

/-- **Why a visitor refused a callback**: the fault of a leaf under the turns from the
root to that leaf. -/
inductive Fault
  /-- The leaf itself refused. -/
  | leaf (f : LeafFault)
  /-- The first visitor of a tee refused, and the second did not see the callback. -/
  | first (f : Fault)
  /-- The second visitor of a tee refused, after the first had accepted. -/
  | second (f : Fault)
deriving DecidableEq

/-- The message of a fault names the turns from the root down. -/
def Fault.message : Fault → String
  | leaf f => f.message
  | first f => "first visitor failed: " ++ f.message
  | second f => "second visitor failed: " ++ f.message

namespace Visitor

/-- **One callback** of a visitor, and whether every leaf accepted it. -/
def step : Visitor → Callback → Visitor × Answer Fault
  | leaf l, c => let (l', answer) := l.step c; (leaf l', answer.map .leaf)
  | tee a b, c =>
    match a.step c with
    | (a', .accepted) => let (b', answer) := b.step c; (tee a' b', answer.map .second)
    | (a', answer) => (tee a' b, answer.map .first)

/-- Setting the room of every printer's sink anew. -/
def allow (room : Option Nat) : Visitor → Visitor
  | leaf l => leaf (l.allow room)
  | tee a b => tee (a.allow room) (b.allow room)

/-- One cue; new room is never refused. -/
def perform (v : Visitor) : Cue → Visitor × Answer Fault
  | .call c => v.step c
  | .allow room => (v.allow room, .accepted)

/-- **A run of cues**, going on after faults, up to a stop: the visitor at the end, and the
answers. -/
def run (v : Visitor) (qs : List Cue) : Visitor × List (Answer Fault) :=
  runWith perform v qs

/-- **A pass up to its first fault**: the visitor there, and the number of callbacks
accepted before it together with the fault, if there is one. -/
def replay (v : Visitor) (cs : List Callback) : Visitor × Answer (Nat × Fault) :=
  replayWith step v cs

/-- The leaves of a visitor, from left to right. -/
def leaves : Visitor → List Leaf
  | leaf l => [l]
  | tee a b => a.leaves ++ b.leaves

end Visitor

end ScanAudit
