/-!
# Kinds of scan events

A scan reports what it walks over in seven kinds of events. Three are about chunks: a
plain node, the first node and the last node. Four are about parallel regions, which
fork into branches at a start node and join at an end node: the two ends of the region
and the two ends of each branch.

An event carries up to four node numbers, in *slots*. What a slot means is fixed by the
kind, and a slot that means nothing for a kind has no label there.
-/

namespace ScanAudit

/-- **The kind of a scan event.** -/
inductive Kind
  /-- A plain node inside a chunk. -/
  | atom
  /-- The first node of a chunk. -/
  | chunkStart
  /-- The last node of a chunk. -/
  | chunkEnd
  /-- The start of a parallel region. -/
  | parallelStart
  /-- The end of a parallel region. -/
  | parallelEnd
  /-- The first node of one branch of a parallel region. -/
  | branchStart
  /-- The last node of one branch of a parallel region. -/
  | branchEnd
deriving DecidableEq

namespace Kind

/-- All kinds, in increasing order. -/
def all : List Kind :=
  [atom, chunkStart, chunkEnd, parallelStart, parallelEnd, branchStart, branchEnd]

/-- The place of a kind in the order of kinds. -/
def rank : Kind → Nat
  | atom => 0
  | chunkStart => 1
  | chunkEnd => 2
  | parallelStart => 3
  | parallelEnd => 4
  | branchStart => 5
  | branchEnd => 6

/-- Kinds are ordered by rank. -/
instance : Ord Kind where
  compare a b := compare a.rank b.rank

/-- The name of a kind in every listing, message and export. -/
def name : Kind → String
  | atom => "AtomNode"
  | chunkStart => "ChunkStart"
  | chunkEnd => "ChunkEnd"
  | parallelStart => "ParallelStart"
  | parallelEnd => "ParallelEnd"
  | branchStart => "ParallelBranchStart"
  | branchEnd => "ParallelBranchEnd"

/-- **The labels of the four slots**, with `none` for a slot the kind does not use. -/
def labels : Kind → List (Option String)
  | atom => [some "before", some "current", some "after", none]
  | chunkStart => [some "startNode", some "beforeBlock", none, none]
  | chunkEnd => [some "endNode", some "afterChunk", none, none]
  | parallelStart => [some "parallelStartNode", some "oneBranchStartNode", none, none]
  | parallelEnd => [some "parallelStartNode", some "parallelEndNode", none, none]
  | branchStart => [some "parallelStartNode", some "branchStartNode", none, none]
  | branchEnd => [some "parallelStartNode", some "branchEndNode", none, none]

/-- Whether a kind is about a parallel region. For these kinds the first slot names the
region, by its start node. -/
def isParallel : Kind → Bool
  | atom | chunkStart | chunkEnd => false
  | parallelStart | parallelEnd | branchStart | branchEnd => true

/-- The list of all kinds is complete and in order: a kind stands at its rank. -/
theorem getElem?_all_rank (k : Kind) : all[k.rank]? = some k := by
  cases k <;> rfl

/-- A kind is known by its rank. -/
theorem rank_injective {a b : Kind} (h : a.rank = b.rank) : a = b := by
  have ha := getElem?_all_rank a
  rw [h, getElem?_all_rank b] at ha
  exact (Option.some.inj ha).symm

end Kind

end ScanAudit
