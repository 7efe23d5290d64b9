import ScanAudit.Record

/-!
# Callbacks

A scanning engine reports a pass by callbacks, one per event and seven in kind, each of
which names the nodes involved by their ids. Ids arrive as the engine wrote them: a
callback may carry an id that names no node at all. A callback whose ids can all be
read amounts to one record (`ScanAudit.Callback.record`); one with a malformed id
amounts to none, and the first malformed id in slot order is to blame.
-/

namespace ScanAudit

/-- **One callback of the scanning engine**, with ids as they arrived. -/
inductive Callback
  /-- A plain node, between its neighbours in scan order. -/
  | atom (before : Option String) (current : String) (after : Option String)
  /-- The first node of a chunk, and the node before the chunk. -/
  | chunkStart (start : String) (before : Option String)
  /-- The last node of a chunk, and the node after the chunk. -/
  | chunkEnd (last : String) (after : Option String)
  /-- The start of a parallel region, and the first node of one of its branches. -/
  | parallelStart (region branch : String)
  /-- The end of a parallel region, and its end node. -/
  | parallelEnd (region last : String)
  /-- The start of a branch of a region, and the branch's first node. -/
  | branchStart (region first : String)
  /-- The end of a branch of a region, and the branch's last node. -/
  | branchEnd (region last : String)
deriving DecidableEq

namespace Callback

/-- The kind of event a callback reports. -/
def kind : Callback → Kind
  | atom .. => .atom
  | chunkStart .. => .chunkStart
  | chunkEnd .. => .chunkEnd
  | parallelStart .. => .parallelStart
  | parallelEnd .. => .parallelEnd
  | branchStart .. => .branchStart
  | branchEnd .. => .branchEnd

/-- **The ids of a callback in slot order**, with `none` for an absent node. -/
def ids : Callback → List (Option String)
  | atom before current after => [before, some current, after]
  | chunkStart start before => [some start, before]
  | chunkEnd last after => [some last, after]
  | parallelStart region branch => [some region, some branch]
  | parallelEnd region last => [some region, some last]
  | branchStart region first => [some region, some first]
  | branchEnd region last => [some region, some last]

/-- **The record of a callback**: its ids are read in slot order, and the first one that
is malformed makes the whole callback fail. -/
def record : Callback → Except MalformedId Record
  | atom before current after => do
    let b ← NodeId.parseOptional before
    let c ← NodeId.parse current
    let a ← NodeId.parseOptional after
    return .atom b c a
  | chunkStart start before => do
    let s ← NodeId.parse start
    let b ← NodeId.parseOptional before
    return .chunkStart s b
  | chunkEnd last after => do
    let l ← NodeId.parse last
    let a ← NodeId.parseOptional after
    return .chunkEnd l a
  | parallelStart region branch => do
    let r ← NodeId.parse region
    let b ← NodeId.parse branch
    return .parallelStart r b
  | parallelEnd region last => do
    let r ← NodeId.parse region
    let l ← NodeId.parse last
    return .parallelEnd r l
  | branchStart region first => do
    let r ← NodeId.parse region
    let f ← NodeId.parse first
    return .branchStart r f
  | branchEnd region last => do
    let r ← NodeId.parse region
    let l ← NodeId.parse last
    return .branchEnd r l

/-! ### The printed form -/

/-- The id of a node that may be absent, as printed: a dash stands for no node. -/
def shown : Option String → String
  | none => "-"
  | some id => id

/-- **The line of a callback**: a tag for the kind of event and the ids as they arrived,
each after its name. The line is not ended here. -/
def line : Callback → String
  | atom before current after =>
    "[atom] node=" ++ current ++ " before=" ++ shown before ++ " after=" ++ shown after
  | chunkStart start before => "[chunk:start] node=" ++ start ++ " before=" ++ shown before
  | chunkEnd last after => "[chunk:end] node=" ++ last ++ " after=" ++ shown after
  | parallelStart region branch => "[parallel:start] region=" ++ region ++ " branch=" ++ branch
  | parallelEnd region last => "[parallel:end] region=" ++ region ++ " end=" ++ last
  | branchStart region first => "[branch:start] region=" ++ region ++ " node=" ++ first
  | branchEnd region last => "[branch:end] region=" ++ region ++ " node=" ++ last

end Callback

end ScanAudit
