import ScanAudit.Export
import ScanAudit.Proofs.JsonReading

/-!
# The export of a log loses nothing

An exported record shows its slots twice: in order and all of them, and once more under their
labels. The first of the two is enough to read the record back
(`ScanAudit.Record.ofJson?_json`); since the text of a JSON value is read back as well, the
export of a log tells the log.

The members of an object are written in the order of their keys. This is no more than
another order as long as no two of them have the same key: a later member would take the
place of an earlier one (`ScanAudit.Json.exists_ofMembers`). No kind has the same label for
two slots.
-/

namespace ScanAudit

namespace Json

/-! ### Objects -/

/-- The value under a key of an object. -/
def member? (key : String) : Json → Option Json
  | object members => members.lookup key
  | _ => none

theorem insertMember_perm {key : String} (value : Json) {members : List (String × Json)}
    (h : key ∉ members.map Prod.fst) :
    (insertMember key value members).Perm ((key, value) :: members) := by
  fun_induction insertMember key value members with
  | case1 => rfl
  | case2 => rfl
  | case3 => simp at h
  | case4 k v rest _ _ ih =>
    rw [List.map_cons, List.mem_cons, not_or] at h
    exact ((ih h.2).cons (k, v)).trans (List.Perm.swap _ _ _)

/-- **Members with distinct keys are all kept**, in another order. -/
theorem foldl_insertMember_perm {members sorted : List (String × Json)}
    (h : ((sorted ++ members).map Prod.fst).Nodup) :
    (members.foldl (fun sorted m => insertMember m.1 m.2 sorted) sorted).Perm
      (sorted ++ members) := by
  induction members generalizing sorted with
  | nil => simp
  | cons m members ih =>
    have hkey : m.1 ∉ sorted.map Prod.fst := by
      rw [List.map_append, List.map_cons] at h
      exact fun hmem => (List.nodup_append.mp h).2.2 _ hmem _ List.mem_cons_self rfl
    have hwhole : (insertMember m.1 m.2 sorted ++ members).Perm (sorted ++ m :: members) :=
      ((insertMember_perm m.2 hkey).append_right members).trans List.perm_middle.symm
    exact (ih ((hwhole.map _).nodup_iff.mpr h)).trans hwhole

/-- **An object made of members with distinct keys** has these members. -/
theorem exists_ofMembers {members : List (String × Json)} (h : (members.map Prod.fst).Nodup) :
    ∃ sorted, ofMembers members = object sorted ∧ sorted.Perm members :=
  ⟨_, rfl, foldl_insertMember_perm h⟩

theorem lookup_of_mem {members : List (String × Json)} (h : (members.map Prod.fst).Nodup)
    {key : String} {value : Json} (hmem : (key, value) ∈ members) :
    members.lookup key = some value := by
  obtain ⟨before, after, rfl⟩ := List.append_of_mem hmem
  refine List.lookup_eq_some_iff.mpr ⟨before, after, rfl, fun m hm => ?_⟩
  rw [List.map_append, List.map_cons] at h
  have hne : m.1 ≠ key :=
    (List.nodup_append.mp h).2.2 _ (List.mem_map_of_mem hm) _ List.mem_cons_self
  simpa using hne.symm

/-- A member of an object made of members with distinct keys is found under its key. -/
theorem member?_ofMembers {members : List (String × Json)} (h : (members.map Prod.fst).Nodup)
    {key : String} {value : Json} (hmem : (key, value) ∈ members) :
    (ofMembers members).member? key = some value := by
  obtain ⟨sorted, hsorted, hperm⟩ := exists_ofMembers h
  rw [hsorted]
  exact lookup_of_mem ((hperm.map _).nodup_iff.mpr h) (hperm.mem_iff.mpr hmem)

/-- **Equal objects have equal values** under a key. -/
theorem eq_of_ofMembers_eq (key : String) {members others : List (String × Json)}
    (h : (members.map Prod.fst).Nodup) (hothers : (others.map Prod.fst).Nodup)
    (hobjects : ofMembers members = ofMembers others) {value other : Json}
    (hvalue : (key, value) ∈ members) (hother : (key, other) ∈ others) : value = other := by
  have hfound := member?_ofMembers h hvalue
  rw [hobjects, member?_ofMembers hothers hother] at hfound
  exact (Option.some.inj hfound).symm

end Json

/-! ### Reading an exported record -/

theorem mapM_map_of_read {α β γ : Type} {write : α → β} {read : β → Option γ} {f : α → γ}
    (h : ∀ a, read (write a) = some (f a)) (l : List α) :
    (l.map write).mapM read = some (l.map f) := by
  have hread : read ∘ write = fun a => pure (f a) := funext h
  rw [List.mapM_map, hread, List.mapM_pure]
  rfl

/-- The kind with a given name. -/
def Kind.ofName? (name : String) : Option Kind :=
  Kind.all.find? fun k => k.name = name

theorem Kind.ofName?_name (k : Kind) : Kind.ofName? k.name = some k := by
  cases k <;> decide

/-- The slot an exported node stands for. -/
def NodeId.ofJson? : Json → Option (Option NodeId)
  | .null => some none
  | .number n => if h : n < 4294967296 then some (some ⟨n, h⟩) else none
  | _ => none

theorem NodeId.ofJson?_json (slot : Option NodeId) :
    NodeId.ofJson? (NodeId.json slot) = some slot := by
  cases slot with
  | none => rfl
  | some node => exact dif_pos node.inRange

namespace Record

/-- The record of a kind with the given slots, of which there must be four. -/
def ofSlots? (k : Kind) : List (Option NodeId) → Option Record
  | [slot0, slot1, slot2, slot3] => some ⟨k, slot0, slot1, slot2, slot3⟩
  | _ => none

/-- **Reading an exported record**: by its kind and its slots, whatever else there is. -/
def ofJson? (value : Json) : Option Record :=
  match value.member? "kind", value.member? "slots" with
  | some (.string name), some (.array slots) =>
    (Kind.ofName? name).bind fun k => (slots.mapM NodeId.ofJson?).bind (ofSlots? k)
  | _, _ => none

/-- The keys under which a record is exported are distinct. -/
theorem nodup_keys_json (r : Record) (index : Nat) :
    (([("index", .number index), ("kind", .string r.kind.name),
      ("slots", .array (r.slots.map NodeId.json)), ("nodes", .ofMembers r.labelled)] :
        List (String × Json)).map Prod.fst).Nodup := by
  simp

/-- **An exported record is read back**, at whatever position it stands. -/
theorem ofJson?_json (r : Record) (index : Nat) : ofJson? (r.json index) = some r := by
  have hkind : (r.json index).member? "kind" = some (.string r.kind.name) :=
    Json.member?_ofMembers (nodup_keys_json r index) (by simp)
  have hslots : (r.json index).member? "slots" = some (.array (r.slots.map NodeId.json)) :=
    Json.member?_ofMembers (nodup_keys_json r index) (by simp)
  have hread : (r.slots.map NodeId.json).mapM NodeId.ofJson? = some r.slots := by
    simpa using mapM_map_of_read NodeId.ofJson?_json r.slots
  rw [ofJson?, hkind, hslots]
  simp only [Kind.ofName?_name, hread, Option.bind_some]
  rfl

/-! ### The labelled slots -/

/-- **A labelled slot is a member under its label**, and there are no others. -/
theorem mem_labelled_iff {r : Record} {label : String} {value : Json} :
    (label, value) ∈ r.labelled ↔
      ∃ i, r.kind.labels[i]? = some (some label) ∧ value = NodeId.json (r.slot i) := by
  have hslot {i : Nat} {node : Option NodeId} (h : r.slots[i]? = some node) : r.slot i = node := by
    rw [slot, h, Option.join_some]
  rw [labelled, List.mem_filterMap]
  constructor
  · rintro ⟨⟨found, slot⟩, hmem, hmember⟩
    obtain ⟨i, hi⟩ := List.mem_iff_getElem?.mp hmem
    obtain ⟨hlabel, hi⟩ := List.getElem?_zip_eq_some.mp hi
    obtain ⟨label, rfl, hpair⟩ := Option.map_eq_some_iff.mp hmember
    obtain ⟨rfl, rfl⟩ := Prod.mk.inj hpair
    exact ⟨i, hlabel, by rw [hslot hi]⟩
  · rintro ⟨i, hlabel, rfl⟩
    have hlt : i < r.slots.length := by
      have hlength : r.kind.labels.length = r.slots.length := by cases r.kind <;> rfl
      exact hlength ▸ (List.getElem?_eq_some_iff.mp hlabel).1
    have hi := List.getElem?_eq_getElem hlt
    refine ⟨(some label, r.slots[i]), ?_, by rw [hslot hi]; rfl⟩
    exact List.mem_of_getElem? (List.getElem?_zip_eq_some.mpr ⟨hlabel, hi⟩)

/-- No kind labels two slots alike. -/
theorem nodup_keys_labelled (r : Record) : (r.labelled.map Prod.fst).Nodup := by
  have hkeys : r.labelled.map Prod.fst = r.kind.labels.filterMap id := by
    rw [labelled]
    cases r.kind <;> rfl
  rw [hkeys]
  cases r.kind <;> decide

end Record

namespace Log

/-- **An exported log is read back**, record by record. -/
theorem mapM_ofJson?_json (log : Log) :
    (log.toList.zipIdx.map fun x => x.1.json x.2).mapM Record.ofJson? = some log.toList := by
  have hread : (log.toList.zipIdx.map fun x => x.1.json x.2).mapM Record.ofJson? =
      some (log.toList.zipIdx.map Prod.fst) :=
    mapM_map_of_read (fun x : Record × Nat => Record.ofJson?_json x.1 x.2) _
  rwa [List.zipIdx_map_fst] at hread

/-- **A log is known by the text of its export.** -/
theorem text_json_inj {log other : Log} (h : log.json.text = other.json.text) : log = other := by
  have hjson : log.json = other.json := Json.text_injective h
  have hrecords := mapM_ofJson?_json log
  rw [Json.array.inj hjson, mapM_ofJson?_json other] at hrecords
  exact ext_toList (Option.some.inj hrecords).symm

theorem writeJson_unlimited (log : Log) :
    log.writeJson .unlimited = (⟨log.json.text.toUTF8, none⟩, .ok ()) :=
  Sink.writeAll_unlimited (log.json.pieces 0)

/-- **The export of a log loses nothing.** It is written whole. Its text is read back as an array
with one object for each record, in order; the object at a position has four members:

* the position and the name of the record's kind;
* all four slots, a number for a node and nothing for an absent one;
* the slots once more, one member for each label of the kind, whose value is the slot with that
  label.

Each record is read back from the kind and the slots of its object. So a log of which the same
bytes are written is the same log. -/
theorem export_faithful (log : Log) :
    let text := log.json.text
    log.writeJson .unlimited = (⟨text.toUTF8, none⟩, .ok ()) ∧
      ∃ items, Json.read? text = some (.array items) ∧ items.length = log.size ∧
        (∀ i r, log.get? i = some r → ∃ members nodes, items[i]? = some (.object members) ∧
          members.Perm [("index", .number i), ("kind", .string r.kind.name),
            ("slots", .array (r.slots.map NodeId.json)), ("nodes", .object nodes)] ∧
          (nodes.map Prod.fst).Nodup ∧ ∀ label value, (label, value) ∈ nodes ↔
            ∃ j, r.kind.labels[j]? = some (some label) ∧ value = NodeId.json (r.slot j)) ∧
        items.mapM Record.ofJson? = some log.toList ∧
        ∀ other : Log,
          (other.writeJson .unlimited).1.bytes = (log.writeJson .unlimited).1.bytes →
          other = log := by
  intro text
  refine ⟨log.writeJson_unlimited, _, Json.read?_text log.json, by simp, fun i r hr => ?_,
    mapM_ofJson?_json log, fun other hbytes => ?_⟩
  · obtain ⟨members, hmembers, hperm⟩ := Json.exists_ofMembers (r.nodup_keys_json i)
    obtain ⟨nodes, hnodes, hlabelled⟩ := Json.exists_ofMembers r.nodup_keys_labelled
    rw [hnodes] at hperm
    refine ⟨members, nodes, ?_, hperm, ?_, fun label value => ?_⟩
    · rw [← hmembers, List.getElem?_map, List.getElem?_zipIdx, getElem?_toList, hr]
      simp [Record.json]
    · exact (hlabelled.map _).nodup_iff.mpr r.nodup_keys_labelled
    · rw [hlabelled.mem_iff, Record.mem_labelled_iff]
  · rw [writeJson_unlimited, writeJson_unlimited] at hbytes
    exact text_json_inj (String.toByteArray_inj.mp hbytes)

end Log

end ScanAudit
