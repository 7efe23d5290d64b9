import Mathlib.Data.List.Basic
import ScanAudit.Direction
import ScanAudit.Proofs.Recording

/-!
# Executions and their traversals

What a scanning engine walks over, as a tree. An *execution* is a sequence of stretches
that have been completed and of parallel regions that are still running
(`ScanAudit.Execution.Stretch`). What has been completed is a *block*
(`ScanAudit.Execution.Block`): a sequence of events that are about no region, and of
regions, each with its branches and, inside each branch, another block.

A *traversal* is the sequence of events that an engine reports of an execution. It goes
through the tree in order. A region is reported when it is entered, then branch by
branch, and when it is left; a region that is still running is reported once, by the
event at the end that is there already. The direction of the scan decides which end of a
region, and of a branch, counts as entering it and which as leaving it, and nothing else.

A region of a graph has at least one branch, and it announces the start of one of them.
Trees are not restricted to such regions here, because nothing that is proved about
traversals depends on it.

The last section takes a traversal apart: up to order it consists of the events that are
about no region, the events each completed region has of its own, and one event for each
running region (`ScanAudit.Execution.traversal_perm`). The order of a traversal matters
only to how its events nest.
-/

namespace ScanAudit

namespace Execution

/-! ### Nodes and events -/

/-- **A node as an engine names it**: an id, in any spelling, and the number it stands
for. -/
structure Node where
  /-- The id. -/
  id : String
  /-- The number of the node. -/
  number : NodeId
  /-- The id is one of the number's. -/
  reads : NodeId.parse id = .ok number

/-- The node with a given number, spelled without superfluous characters. -/
def Node.ofNumber (number : NodeId) : Node :=
  ⟨number.text, number, NodeId.parse_text number⟩

theorem parseOptional_map_id (node : Option Node) :
    NodeId.parseOptional (node.map Node.id) = .ok (node.map Node.number) := by
  cases node with
  | none => rfl
  | some n => simp only [Option.map_some, NodeId.parseOptional, n.reads, Except.map]

/-- **An event**: a callback whose ids can all be read, with its record. -/
structure Event where
  /-- The callback that reports the event. -/
  callback : Callback
  /-- The record of the event. -/
  record : Record
  /-- The record is the one of the callback. -/
  reads : callback.record = .ok record

namespace Event

/-- A plain node, between its neighbours. -/
def atom (before : Option Node) (current : Node) (after : Option Node) : Event where
  callback := .atom (before.map Node.id) current.id (after.map Node.id)
  record := .atom (before.map Node.number) current.number (after.map Node.number)
  reads := by
    rw [Callback.record, parseOptional_map_id, current.reads, parseOptional_map_id]
    rfl

def chunkStart (start : Node) (before : Option Node) : Event where
  callback := .chunkStart start.id (before.map Node.id)
  record := .chunkStart start.number (before.map Node.number)
  reads := by
    rw [Callback.record, start.reads, parseOptional_map_id]
    rfl

def chunkEnd (last : Node) (after : Option Node) : Event where
  callback := .chunkEnd last.id (after.map Node.id)
  record := .chunkEnd last.number (after.map Node.number)
  reads := by
    rw [Callback.record, last.reads, parseOptional_map_id]
    rfl

def parallelStart (region branch : Node) : Event where
  callback := .parallelStart region.id branch.id
  record := .parallelStart region.number branch.number
  reads := by
    rw [Callback.record, region.reads, branch.reads]
    rfl

def parallelEnd (region last : Node) : Event where
  callback := .parallelEnd region.id last.id
  record := .parallelEnd region.number last.number
  reads := by
    rw [Callback.record, region.reads, last.reads]
    rfl

def branchStart (region first : Node) : Event where
  callback := .branchStart region.id first.id
  record := .branchStart region.number first.number
  reads := by
    rw [Callback.record, region.reads, first.reads]
    rfl

def branchEnd (region last : Node) : Event where
  callback := .branchEnd region.id last.id
  record := .branchEnd region.number last.number
  reads := by
    rw [Callback.record, region.reads, last.reads]
    rfl

end Event

/-! ### Trees -/

/-- **An event that is about no region.** -/
inductive Plain
  /-- A plain node, between its neighbours. -/
  | atom (before : Option Node) (current : Node) (after : Option Node)
  /-- The first node of a chunk. -/
  | chunkStart (start : Node) (before : Option Node)
  /-- The last node of a chunk. -/
  | chunkEnd (last : Node) (after : Option Node)

/-- The event itself. -/
def Plain.event : Plain → Event
  | atom before current after => .atom before current after
  | chunkStart start before => .chunkStart start before
  | chunkEnd last after => .chunkEnd last after

/-- **The two ends of a region**, and what its start announces. -/
structure Frame where
  /-- The start node, which names the region. -/
  start : Node
  /-- The end node. -/
  last : Node
  /-- The first node of one of the branches. -/
  announced : Node

/-- **The two ends of a branch.** -/
structure Span where
  /-- The first node of the branch. -/
  first : Node
  /-- The last node of the branch. -/
  last : Node

mutual

/-- **What has been completed**, in the order of the scan. -/
inductive Block
  /-- Nothing. -/
  | nil
  /-- An event that is about no region, and the rest. -/
  | plain (p : Plain) (rest : Block)
  /-- A region with its branches, and the rest. -/
  | region (frame : Frame) (branches : Fork) (rest : Block)

/-- **The branches of a region**, in the order of the scan. -/
inductive Fork
  /-- No branch. -/
  | nil
  /-- A branch around what happens in it, and the rest. -/
  | cons (span : Span) (inner : Block) (rest : Fork)

end

/-- **A stretch of an execution.** -/
inductive Stretch
  /-- A stretch that has been completed. -/
  | block (b : Block)
  /-- A region that is still running, of which only one end is there. -/
  | running (frame : Frame)

end Execution

/-- **An execution**: its stretches, in the order of the scan. -/
abbrev Execution : Type :=
  List Execution.Stretch

namespace Execution

/-! ### Traversals -/

/-- The event that enters a region. -/
def Frame.opening (f : Frame) : Direction → Event
  | .backward => .parallelEnd f.start f.last
  | .forward => .parallelStart f.start f.announced

/-- The event that leaves a region, which enters it in the opposite direction. -/
def Frame.closing (f : Frame) (d : Direction) : Event :=
  f.opening d.reverse

/-- The event that enters a branch of a region. -/
def Span.opening (s : Span) (region : Node) : Direction → Event
  | .backward => .branchEnd region s.last
  | .forward => .branchStart region s.first

/-- The event that leaves a branch, which enters it in the opposite direction. -/
def Span.closing (s : Span) (region : Node) (d : Direction) : Event :=
  s.opening region d.reverse

mutual

/-- **The traversal of a block.** -/
def Block.traversal (d : Direction) : Block → List Event
  | .nil => []
  | .plain p rest => p.event :: rest.traversal d
  | .region frame branches rest =>
    frame.opening d :: (branches.traversal d frame.start ++ frame.closing d :: rest.traversal d)

/-- The traversal of the branches of a region. -/
def Fork.traversal (d : Direction) (region : Node) : Fork → List Event
  | .nil => []
  | .cons span inner rest =>
    span.opening region d ::
      (inner.traversal d ++ span.closing region d :: rest.traversal d region)

end

def Stretch.traversal (d : Direction) : Stretch → List Event
  | .block b => b.traversal d
  | .running frame => [frame.closing d]

end Execution

/-- **The traversal of an execution.** -/
def Execution.traversal (d : Direction) (e : Execution) : List Execution.Event :=
  e.flatMap (Execution.Stretch.traversal d)

namespace Execution

/-! ### What a traversal consists of -/

/-- **A completed region** without what happens inside its branches. -/
structure Outline where
  /-- The ends of the region. -/
  frame : Frame
  /-- The ends of its branches. -/
  spans : List Span

/-- The events of a completed region that are its own. -/
def Outline.events (o : Outline) : List Event :=
  .parallelStart o.frame.start o.frame.announced :: .parallelEnd o.frame.start o.frame.last ::
    (o.spans.map (fun s => .branchStart o.frame.start s.first) ++
      o.spans.map fun s => .branchEnd o.frame.start s.last)

/-- The ends of all branches of a region. -/
def Fork.spans : Fork → List Span
  | .nil => []
  | .cons span _ rest => span :: rest.spans

mutual

/-- The events of a block that are about no region, at any depth. -/
def Block.plains : Block → List Plain
  | .nil => []
  | .plain p rest => p :: rest.plains
  | .region _ branches rest => branches.plains ++ rest.plains

/-- The events inside branches that are about no region. -/
def Fork.plains : Fork → List Plain
  | .nil => []
  | .cons _ inner rest => inner.plains ++ rest.plains

end

mutual

/-- The regions of a block, at any depth. -/
def Block.outlines : Block → List Outline
  | .nil => []
  | .plain _ rest => rest.outlines
  | .region frame branches rest =>
    ⟨frame, branches.spans⟩ :: (branches.outlines ++ rest.outlines)

/-- The regions inside branches. -/
def Fork.outlines : Fork → List Outline
  | .nil => []
  | .cons _ inner rest => inner.outlines ++ rest.outlines

end

/-- The events of a stretch that are about no region. -/
def Stretch.plains : Stretch → List Plain
  | .block b => b.plains
  | .running _ => []

def Stretch.outlines : Stretch → List Outline
  | .block b => b.outlines
  | .running _ => []

/-- The running regions of a stretch. -/
def Stretch.frames : Stretch → List Frame
  | .block _ => []
  | .running frame => [frame]

/-- The events of an execution that are about no region, at any depth. -/
def plains (e : Execution) : List Plain :=
  e.flatMap Stretch.plains

/-- The completed regions of an execution, at any depth. -/
def outlines (e : Execution) : List Outline :=
  e.flatMap Stretch.outlines

/-- The running regions of an execution. -/
def frames (e : Execution) : List Frame :=
  e.flatMap Stretch.frames

mutual

/-- **A traversal of a block** consists of its plain events and its regions' own ones. -/
theorem Block.traversal_perm (d : Direction) :
    ∀ b : Block, (b.traversal d).Perm
      (b.plains.map Plain.event ++ b.outlines.flatMap Outline.events)
  | .nil => .nil
  | .plain p rest => (rest.traversal_perm d).cons p.event
  | .region frame branches rest => by
    classical
    have hbranches := branches.traversal_perm d frame.start
    have hrest := rest.traversal_perm d
    -- counts forget the order, and a direction only exchanges the two ends of the region
    rw [List.perm_iff_count] at hbranches hrest ⊢
    intro x
    have hx := hbranches x
    have hx' := hrest x
    cases d <;>
      simp only [Block.traversal, Block.plains, Block.outlines, Outline.events, Frame.opening,
        Frame.closing, Direction.reverse, List.count_cons, List.count_append, List.map_append,
        List.flatMap_cons, List.flatMap_append] at hx hx' ⊢ <;>
      omega

theorem Fork.traversal_perm (d : Direction) (region : Node) :
    ∀ branches : Fork, (branches.traversal d region).Perm
      ((branches.spans.map (fun s => Event.branchStart region s.first) ++
        branches.spans.map fun s => Event.branchEnd region s.last) ++
        (branches.plains.map Plain.event ++ branches.outlines.flatMap Outline.events))
  | .nil => .nil
  | .cons span inner rest => by
    classical
    have hinner := inner.traversal_perm d
    have hrest := rest.traversal_perm d region
    rw [List.perm_iff_count] at hinner hrest ⊢
    intro x
    have hx := hinner x
    have hx' := hrest x
    cases d <;>
      simp only [Fork.traversal, Fork.plains, Fork.outlines, Fork.spans,
        Span.opening, Span.closing, Direction.reverse, List.count_cons, List.count_append,
        List.map_append, List.map_cons, List.flatMap_append] at hx hx' ⊢ <;>
      omega

end

/-- **What a traversal consists of**, up to order: the events that are about no region, the
events of the completed regions, and one event for each running region. -/
theorem traversal_perm (d : Direction) (e : Execution) :
    (e.traversal d).Perm (e.plains.map Plain.event ++ e.outlines.flatMap Outline.events ++
      e.frames.map fun f => f.closing d) := by
  induction e with
  | nil => exact .nil
  | cons stretch e ih =>
    classical
    rw [List.perm_iff_count] at ih ⊢
    intro x
    have hx := ih x
    simp only [Execution.traversal, plains, outlines, frames, List.count_append,
      List.flatMap_cons, List.map_append, List.flatMap_append] at hx ⊢
    cases stretch with
    | block b =>
      have hx' := List.perm_iff_count.mp (b.traversal_perm d) x
      simp only [Stretch.traversal, Stretch.plains, Stretch.outlines, Stretch.frames,
        List.count_append, List.map_nil, List.count_nil] at hx' ⊢
      omega
    | running frame =>
      simp only [Stretch.traversal, Stretch.plains, Stretch.outlines, Stretch.frames,
        List.map_nil, List.flatMap_nil, List.count_nil, List.map_cons, List.count_cons]
      omega

end Execution

end ScanAudit
