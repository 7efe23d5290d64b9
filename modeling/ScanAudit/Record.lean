import ScanAudit.Kind
import ScanAudit.NodeId

/-!
# Records

A record is one scan event as it is kept: its kind and the node numbers in its four
slots. Two records are equal when the kind and all four slots are.

Any slot of a record may be absent and any may be set, whatever the kind says about it.
The records a scan leaves behind are more regular: they are built by the constructors
`ScanAudit.Record.atom` to `ScanAudit.Record.branchEnd`, which fill the slots the kind
labels and no other. Text and order are defined for all records, so that a record that
breaks the layout is still shown in full and still told apart.
-/

namespace ScanAudit

/-- **A recorded event**: a kind and four slots. -/
structure Record where
  /-- What kind of event it was. -/
  kind : Kind
  /-- The first slot; for events of parallel regions, the region. -/
  slot0 : Option NodeId
  /-- The second slot. -/
  slot1 : Option NodeId
  /-- The third slot. -/
  slot2 : Option NodeId
  /-- The fourth slot, which no event uses. -/
  slot3 : Option NodeId
deriving DecidableEq

namespace Record

/-! ### The layout of each kind -/

/-- The record of a plain node, with the nodes before and after it in scan order. -/
def atom (before : Option NodeId) (current : NodeId) (after : Option NodeId) : Record :=
  ⟨.atom, before, some current, after, none⟩

/-- The record of the first node of a chunk, with the node before the chunk. -/
def chunkStart (start : NodeId) (before : Option NodeId) : Record :=
  ⟨.chunkStart, some start, before, none, none⟩

/-- The record of the last node of a chunk, with the node after the chunk. -/
def chunkEnd (last : NodeId) (after : Option NodeId) : Record :=
  ⟨.chunkEnd, some last, after, none, none⟩

/-- The record of the start of a region, with the first node of one of its branches. -/
def parallelStart (region branch : NodeId) : Record :=
  ⟨.parallelStart, some region, some branch, none, none⟩

/-- The record of the end of a region, with its end node. -/
def parallelEnd (region last : NodeId) : Record :=
  ⟨.parallelEnd, some region, some last, none, none⟩

/-- The record of the start of a branch, with the branch's first node. -/
def branchStart (region first : NodeId) : Record :=
  ⟨.branchStart, some region, some first, none, none⟩

/-- The record of the end of a branch, with the branch's last node. -/
def branchEnd (region last : NodeId) : Record :=
  ⟨.branchEnd, some region, some last, none, none⟩

/-! ### Reading a record -/

/-- All four slots, in order. -/
def slots (r : Record) : List (Option NodeId) :=
  [r.slot0, r.slot1, r.slot2, r.slot3]

/-- The node in the slot with a given index; none when the slot is absent, and none when
there is no such slot. -/
def slot (r : Record) (index : Nat) : Option NodeId :=
  r.slots[index]?.join

/-- **The parallel region** an event is about: the first slot, for the kinds that are
about a region. -/
def region (r : Record) : Option NodeId :=
  if r.kind.isParallel then r.slot0 else none

/-- A record is known by its kind and its slots. -/
theorem ext_slots {a b : Record} (hkind : a.kind = b.kind) (hslots : a.slots = b.slots) :
    a = b := by
  cases a
  cases b
  simp_all [slots]

/-- A record is known by its kind and what each slot holds. -/
theorem ext_slot {a b : Record} (hkind : a.kind = b.kind)
    (hslot : ∀ i, a.slot i = b.slot i) : a = b := by
  refine ext_slots hkind ?_
  have h0 : a.slot0 = b.slot0 := hslot 0
  have h1 : a.slot1 = b.slot1 := hslot 1
  have h2 : a.slot2 = b.slot2 := hslot 2
  have h3 : a.slot3 = b.slot3 := hslot 3
  simp only [slots, h0, h1, h2, h3]

/-! ### Order -/

/-- **The order of records**: by kind, then by the slots from the first to the last. An
absent slot comes before every number. -/
instance : Ord Record where
  compare := compareLex (compareOn kind) <| compareLex (compareOn slot0) <|
    compareLex (compareOn slot1) <| compareLex (compareOn slot2) (compareOn slot3)

/-- Records in increasing order. -/
def sort (records : List Record) : List Record :=
  records.mergeSort fun a b => (compare a b).isLE

/-! ### Text -/

/-- **One field of a record's text**: a labelled slot always shows, an absent one as a
dash; a slot without a label shows under its index, and only when it is set. -/
def field? (index : Nat) : Option String → Option NodeId → Option String
  | none, none => none
  | none, some node => some ("slot" ++ Decimal.plain index ++ "=" ++ node.text)
  | some label, slot => some (label ++ "=" ++ NodeId.optionalText slot)

/-- The fields of a record's text, in slot order. -/
def fields (r : Record) : List String :=
  (r.kind.labels.zip r.slots).zipIdx.filterMap fun x => field? x.2 x.1.1 x.1.2

/-- **The text of a record**: the kind's name and the fields between parentheses. -/
def text (r : Record) : String :=
  r.kind.name ++ "(" ++ ", ".intercalate r.fields ++ ")"

end Record

end ScanAudit
