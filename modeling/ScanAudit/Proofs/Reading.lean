import Mathlib.Data.List.Forall2
import ScanAudit.Callback

/-!
# What a callback amounts to

A callback carries up to three ids, some of which may be absent, and a record has four
slots. `ScanAudit.Callback.Reported` says when a record is the report of a callback without
saying how it is made: the kinds agree, and the slots hold the nodes the ids name, in the
order of the ids and with nothing after them.

The seven callbacks differ in the ids they take, and for each of them the order of the ids
is the order of the slots (`ScanAudit.Callback.record_eq`). So all that is said here about
callbacks is said about lists of ids first: they are read from the left, and the first
malformed one is to blame (`ScanAudit.mapM_parseOptional_cases`).
-/

namespace ScanAudit

/-! ### One id -/

/-- **The id names no node.** -/
def Unreadable (id : String) : Prop :=
  ∀ node, NodeId.parse id ≠ .ok node

theorem unreadable_iff_read? {id : String} : Unreadable id ↔ NodeId.read? id = none := by
  rw [Unreadable, NodeId.parse]
  rcases NodeId.read? id with _ | node <;> simp

instance : DecidablePred Unreadable := fun _ => decidable_of_iff _ unreadable_iff_read?.symm

/-- **What an id puts into a slot**: nothing for an absent node, else the node it names. -/
inductive Reads : Option String → Option NodeId → Prop
  /-- No node, nothing in the slot. -/
  | absent : Reads none none
  /-- The node an id names. -/
  | present {id : String} {node : NodeId} : NodeId.parse id = .ok node →
      Reads (some id) (some node)

/-- An id that is present is readable and fills its slot, or it is malformed. -/
theorem reads_cases (x : Option String) :
    (∃ slot, Reads x slot ∧ ∀ id, x = some id → ¬Unreadable id) ∨
      ∃ id, x = some id ∧ Unreadable id := by
  cases x with
  | none => exact Or.inl ⟨none, .absent, by simp⟩
  | some id =>
    by_cases hid : Unreadable id
    · exact Or.inr ⟨id, rfl, hid⟩
    · obtain ⟨node, hnode⟩ : ∃ node, NodeId.parse id = .ok node := by
        simpa [Unreadable] using hid
      exact Or.inl ⟨some node, .present hnode, fun other hother => Option.some.inj hother ▸ hid⟩

theorem parseOptional_some (id : String) :
    NodeId.parseOptional (some id) = (NodeId.parse id).map some := rfl

theorem parseOptional_of_reads {x : Option String} {slot : Option NodeId} (h : Reads x slot) :
    NodeId.parseOptional x = .ok slot := by
  cases h with
  | absent => rfl
  | present h =>
    rw [parseOptional_some, h]
    rfl

/-- A malformed id is refused as it stands. -/
theorem parseOptional_of_unreadable {id : String} (h : Unreadable id) :
    NodeId.parseOptional (some id) = .error ⟨id⟩ := by
  simp [parseOptional_some, NodeId.parse, unreadable_iff_read?.mp h, Except.map]

/-! ### Lists of ids -/

/-- **A list of ids is read from the left**: either all that are present name nodes, and
each puts its own into its slot, or the first malformed one is to blame. -/
theorem mapM_parseOptional_cases (ids : List (Option String)) :
    ((∀ text ∈ ids.filterMap id, ¬Unreadable text) ∧
      ∃ nodes, ids.mapM NodeId.parseOptional = .ok nodes ∧ List.Forall₂ Reads ids nodes) ∨
    ∃ text, ((ids.filterMap id).find? fun text => Unreadable text) = some text ∧
      ids.mapM NodeId.parseOptional = .error ⟨text⟩ := by
  induction ids with
  | nil => exact Or.inl ⟨by simp, [], rfl, .nil⟩
  | cons x ids ih =>
    rw [List.mapM_cons]
    rcases reads_cases x with ⟨slot, hslot, hx⟩ | ⟨text, rfl, htext⟩
    · rw [parseOptional_of_reads hslot]
      rcases ih with ⟨hread, nodes, hids, hnodes⟩ | ⟨text, hfind, hids⟩
      · refine Or.inl ⟨fun text htext => ?_, slot :: nodes, by rw [hids]; rfl, .cons hslot hnodes⟩
        have hmem : x = some text ∨ some text ∈ ids := by simpa [eq_comm] using htext
        rcases hmem with rfl | hmem
        · exact hx text rfl
        · exact hread text (by simpa using hmem)
      · refine Or.inr ⟨text, ?_, by rw [hids]; rfl⟩
        cases x with
        | none => simpa using hfind
        | some first => simpa [hx first rfl] using hfind
    · refine Or.inr ⟨text, by simp [htext], ?_⟩
      rw [parseOptional_of_unreadable htext]
      rfl

/-! ### Callbacks -/

/-- The record of a kind with the given nodes in its first slots. -/
def Record.ofNodes (k : Kind) (nodes : List (Option NodeId)) : Record :=
  ⟨k, nodes[0]?.join, nodes[1]?.join, nodes[2]?.join, nodes[3]?.join⟩

theorem Record.slots_ofNodes (k : Kind) {nodes : List (Option NodeId)} (h : nodes.length ≤ 4) :
    (Record.ofNodes k nodes).slots = nodes ++ List.replicate (4 - nodes.length) none := by
  match nodes, h with
  | [], _ | [_], _ | [_, _], _ | [_, _, _], _ | [_, _, _, _], _ => rfl

namespace Callback

/-- **The ids a callback carries**, in slot order. -/
def carried (c : Callback) : List String :=
  c.ids.filterMap id

/-- **Some id of the callback names no node.** -/
def Malformed (c : Callback) : Prop :=
  ∃ id ∈ c.carried, Unreadable id

instance : DecidablePred Malformed := fun _ => inferInstanceAs (Decidable (∃ _ ∈ _, _))

/-- **The record reports the callback**: it is of the callback's kind, and its slots hold
the nodes the ids name, in order; slots beyond the last id are empty. -/
def Reported (c : Callback) (r : Record) : Prop :=
  r.kind = c.kind ∧ ∃ nodes, List.Forall₂ Reads c.ids nodes ∧
    r.slots = nodes ++ List.replicate (4 - nodes.length) none

/-- **The record of a callback holds its ids in order**, whichever callback it is. -/
theorem record_eq (c : Callback) :
    c.record = (c.ids.mapM NodeId.parseOptional).map (Record.ofNodes c.kind) := by
  cases c with
  | atom before current after =>
    simp only [record, ids, List.mapM_cons, List.mapM_nil, parseOptional_some current]
    rcases NodeId.parseOptional before with _ | _
    · rfl
    rcases NodeId.parse current with _ | _
    · rfl
    rcases NodeId.parseOptional after with _ | _ <;> rfl
  | chunkStart id other | chunkEnd id other =>
    simp only [record, ids, List.mapM_cons, List.mapM_nil, parseOptional_some id]
    rcases NodeId.parse id with _ | _
    · rfl
    rcases NodeId.parseOptional other with _ | _ <;> rfl
  | parallelStart id other | parallelEnd id other | branchStart id other | branchEnd id other =>
    simp only [record, ids, List.mapM_cons, List.mapM_nil, parseOptional_some]
    rcases NodeId.parse id with _ | _
    · rfl
    rcases NodeId.parse other with _ | _ <;> rfl

/-- No callback carries more than three ids. -/
theorem length_ids_le (c : Callback) : c.ids.length ≤ 3 := by
  cases c <;> simp [ids]

/-- **A callback is recorded or refused**: it has a record, which reports it, or the first
malformed id it carries is to blame. -/
theorem record_cases (c : Callback) :
    (¬c.Malformed ∧ ∃ r, c.record = .ok r ∧ c.Reported r) ∨
    ∃ id, (c.carried.find? fun id => Unreadable id) = some id ∧ c.record = .error ⟨id⟩ := by
  rw [record_eq]
  rcases mapM_parseOptional_cases c.ids with ⟨hread, nodes, hids, hnodes⟩ | ⟨id, hfind, hids⟩
  · have hlength : nodes.length ≤ 4 := by
      rw [← hnodes.length_eq]
      exact Nat.le_succ_of_le c.length_ids_le
    refine Or.inl ⟨fun ⟨id, hid, hbad⟩ => hread id hid hbad, Record.ofNodes c.kind nodes, ?_, ?_⟩
    · rw [hids]
      rfl
    · exact ⟨rfl, nodes, hnodes, Record.slots_ofNodes _ hlength⟩
  · refine Or.inr ⟨id, hfind, ?_⟩
    rw [hids]
    rfl

/-- **A callback that is not malformed has a record**, which reports it. -/
theorem exists_record {c : Callback} (h : ¬c.Malformed) :
    ∃ r, c.record = .ok r ∧ c.Reported r := by
  rcases c.record_cases with ⟨-, hrecord⟩ | ⟨id, hfind, -⟩
  · exact hrecord
  · refine absurd ⟨id, List.mem_of_find?_eq_some hfind, ?_⟩ h
    simpa using List.find?_some hfind

/-- **A malformed callback is refused** with the first malformed id it carries. -/
theorem record_of_malformed {c : Callback} (h : c.Malformed) :
    ∃ id, (c.carried.find? fun id => Unreadable id) = some id ∧ c.record = .error ⟨id⟩ := by
  rcases c.record_cases with ⟨hnot, -⟩ | hrecord
  · exact absurd h hnot
  · exact hrecord

end Callback

/-- **Callbacks that are not malformed have records**, one for each in order. -/
theorem exists_records {cs : List Callback} (h : ∀ c ∈ cs, ¬c.Malformed) :
    ∃ records : List Record, cs.map Callback.record = records.map Except.ok ∧
      List.Forall₂ Callback.Reported cs records := by
  induction cs with
  | nil => exact ⟨[], rfl, .nil⟩
  | cons c cs ih =>
    obtain ⟨r, hr, hreported⟩ := Callback.exists_record (h c (by simp))
    obtain ⟨records, hrecords, hrest⟩ := ih fun x hx => h x (by simp [hx])
    exact ⟨r :: records, by simp [hr, hrecords], .cons hreported hrest⟩

end ScanAudit
