import ScanAudit.Listing
import ScanAudit.Text.Delimited
import ScanAudit.Text.Glyphless

/-!
# Listings lose nothing

A log is listed one record a line. Nothing of it is lost: whoever has the listing has the log.
This comes down to three facts, one for each level of the text.

* The lines of a listing can be told apart, since a record stands on one line
  (`ScanAudit.Record.isLine_listing`).
* The parts of a record's text can be told apart: the name of the kind holds no bracket, and a
  field no comma.
* The fields tell the slots (`ScanAudit.Record.slots_eq_of_fields`). Which slots have a field
  depends on the record, so a field is not known by its place. It is known by its name: no two
  slots of a kind show under one name, and what is set has a field
  (`ScanAudit.Record.slot_set_iff`).
-/

namespace ScanAudit

/-! ### Numbers and kinds -/

namespace Decimal

theorem isDigit_of_mem_plain {n : Nat} {c : Char} (h : c ∈ (plain n).toList) : c.isDigit :=
  List.all_eq_true.mp (all_isDigit_plain n) c h

end Decimal

namespace NodeId

/-- The text of a slot holds digits, or it is the dash of an absent one. -/
theorem char_of_mem_optionalText {slot : Option NodeId} {c : Char}
    (h : c ∈ (optionalText slot).toList) : c.isDigit ∨ c = '-' := by
  cases slot with
  | none => exact Or.inr (by simpa [optionalText] using h)
  | some node => exact Or.inl (Decimal.isDigit_of_mem_plain h)

/-- **An absent slot is not mistaken for a number**, nor one number for another. -/
theorem optionalText_injective {a b : Option NodeId} (h : optionalText a = optionalText b) :
    a = b := by
  have hdash (node : NodeId) : node.text ≠ "-" := fun htext => by
    have hdigit : '-'.isDigit := Decimal.isDigit_of_mem_plain (n := node.number) (by
      rw [show Decimal.plain node.number = "-" from htext]
      simp)
    exact absurd hdigit (by decide)
  cases a with
  | none =>
    cases b with
    | none => rfl
    | some b => exact absurd h.symm (hdash b)
  | some a =>
    cases b with
    | none => exact absurd h (hdash a)
    | some b => exact congrArg some (text_injective h)

end NodeId

namespace Kind

/-- A kind is known by its name. -/
theorem name_injective {a b : Kind} (h : a.name = b.name) : a = b := by
  revert h
  cases a <;> cases b <;> decide

theorem char_of_mem_name {k : Kind} {c : Char} (h : c ∈ k.name.toList) :
    Glyphless.plainAscii c ∧ c ≠ '(' := by
  have hall : k.name.toList.all fun c => Glyphless.plainAscii c && c != '(' := by
    cases k <;> decide
  simpa using List.all_eq_true.mp hall c h

end Kind

namespace Record

/-! ### Slots and fields -/

variable {r s : Record} {i j : Nat} {label other : Option String} {slot : Option NodeId}

/-- The name under which a slot shows: its label, or else its index. -/
def fieldName (index : Nat) : Option String → String
  | some label => label
  | none => "slot" ++ Decimal.plain index

theorem field?_eq (index : Nat) (label : Option String) (slot : Option NodeId) :
    field? index label slot =
      if label = none ∧ slot = none then none
      else some (fieldName index label ++ "=" ++ NodeId.optionalText slot) := by
  cases label <;> cases slot <;> rfl

/-- **The fields of a record**: a slot shows under its name, unless it is absent and has no
label. -/
theorem mem_fields_iff {field : String} :
    field ∈ r.fields ↔ ∃ (i : Nat) (label : Option String) (slot : Option NodeId),
      r.kind.labels[i]? = some label ∧ r.slots[i]? = some slot ∧ ¬(label = none ∧ slot = none) ∧
        fieldName i label ++ "=" ++ NodeId.optionalText slot = field := by
  rw [fields, List.mem_filterMap]
  simp only [field?_eq, Option.ite_none_left_eq_some, Option.some.injEq]
  constructor
  · rintro ⟨⟨⟨label, slot⟩, i⟩, hmem, hshown, hfield⟩
    obtain ⟨hlabel, hslot⟩ := List.getElem?_zip_eq_some.mp (List.mem_zipIdx_iff_getElem?.mp hmem)
    exact ⟨i, label, slot, hlabel, hslot, hshown, hfield⟩
  · rintro ⟨i, label, slot, hlabel, hslot, hshown, hfield⟩
    refine ⟨((label, slot), i), ?_, hshown, hfield⟩
    exact List.mem_zipIdx_iff_getElem?.mpr (List.getElem?_zip_eq_some.mpr ⟨hlabel, hslot⟩)

/-- **No two slots of a kind show under one name.** -/
theorem fieldName_inj {k : Kind} (hlabel : k.labels[i]? = some label)
    (hother : k.labels[j]? = some other) (h : fieldName i label = fieldName j other) : i = j := by
  have hnodup : (k.labels.zipIdx.map fun x => fieldName x.2 x.1).Nodup := by cases k <;> decide
  have hlt : i < (k.labels.zipIdx.map fun x => fieldName x.2 x.1).length := by
    simpa using (List.getElem?_eq_some_iff.mp hlabel).1
  refine (List.getElem?_inj hlt hnodup).mp ?_
  simp [hlabel, hother, h]

/-- A name holds nothing that sets fields apart, or the name of a field from its value. -/
theorem char_of_mem_fieldName {k : Kind} (hlabel : k.labels[i]? = some label) {c : Char}
    (h : c ∈ (fieldName i label).toList) : Glyphless.plainAscii c ∧ c ≠ ',' ∧ c ≠ '=' := by
  have hall : (k.labels.zipIdx.map fun x => fieldName x.2 x.1).all fun name =>
      name.toList.all fun c => Glyphless.plainAscii c && (c != ',' && c != '=') := by
    cases k <;> decide
  have hmem : fieldName i label ∈ k.labels.zipIdx.map fun x => fieldName x.2 x.1 :=
    List.mem_map.mpr ⟨(label, i), List.mem_zipIdx_iff_getElem?.mpr hlabel, rfl⟩
  simpa using List.all_eq_true.mp (List.all_eq_true.mp hall _ hmem) c h

/-- **A slot is set when the text says so** under the name of the slot. -/
theorem slot_set_iff {node : NodeId} (hlabel : r.kind.labels[i]? = some label) :
    r.slots[i]? = some (some node) ↔ fieldName i label ++ "=" ++ node.text ∈ r.fields := by
  rw [mem_fields_iff]
  constructor
  · exact fun hslot => ⟨i, label, some node, hlabel, hslot, by simp, rfl⟩
  · rintro ⟨j, other, slot, hother, hslot, -, hfield⟩
    have hsplit : (fieldName j other).toList ++ '=' :: (NodeId.optionalText slot).toList =
        (fieldName i label).toList ++ '=' :: node.text.toList := by
      simpa using congrArg String.toList hfield
    obtain ⟨hname, htext⟩ := Delimited.append_cons_inj
      (fun hc => (char_of_mem_fieldName hother hc).2.2 rfl)
      (fun hc => (char_of_mem_fieldName hlabel hc).2.2 rfl) hsplit
    obtain rfl := fieldName_inj hother hlabel (String.toList_inj.mp hname)
    rwa [NodeId.optionalText_injective (b := some node) (String.toList_inj.mp htext)] at hslot

/-- **The fields of a record tell its slots**, the kind being known. -/
theorem slots_eq_of_fields (hkind : r.kind = s.kind) (h : r.fields = s.fields) :
    r.slots = s.slots := by
  refine List.ext_getElem (by simp [slots]) fun i hr hs => ?_
  have hlabels : r.kind.labels.length = 4 := by cases r.kind <;> rfl
  obtain ⟨label, hlabel⟩ : ∃ label, r.kind.labels[i]? = some label :=
    ⟨_, List.getElem?_eq_getElem (by simpa [hlabels, slots] using hr)⟩
  refine Option.ext fun node => ?_
  have hset : r.slots[i]? = some (some node) ↔ s.slots[i]? = some (some node) := by
    rw [slot_set_iff hlabel, slot_set_iff (hkind ▸ hlabel), h]
  simpa [List.getElem?_eq_getElem hr, List.getElem?_eq_getElem hs] using hset

/-! ### The text of a record -/

/-- A field holds nothing that sets fields apart. -/
theorem char_of_mem_field {field : String} (hfield : field ∈ r.fields) {c : Char}
    (h : c ∈ field.toList) : Glyphless.plainAscii c ∧ c ≠ ',' := by
  obtain ⟨i, label, slot, hlabel, -, -, rfl⟩ := mem_fields_iff.mp hfield
  rw [String.toList_append, String.toList_append, List.mem_append, List.mem_append] at h
  rcases h with (hname | heq) | hslot
  · obtain ⟨hplain, hcomma, -⟩ := char_of_mem_fieldName hlabel hname
    exact ⟨hplain, hcomma⟩
  · obtain rfl : c = '=' := by simpa using heq
    decide
  · rcases NodeId.char_of_mem_optionalText hslot with hdigit | rfl
    · refine ⟨Glyphless.plainAscii_of_isDigit hdigit, ?_⟩
      rintro rfl
      exact absurd hdigit (by decide)
    · decide

theorem toList_text (r : Record) :
    r.text.toList = r.kind.name.toList ++
      '(' :: ([',', ' '].intercalate (r.fields.map String.toList) ++ [')']) := by
  simp [text]

/-- **A record is known by its text.** -/
theorem text_inj (h : r.text = s.text) : r = s := by
  have hchars := congrArg String.toList h
  rw [toList_text, toList_text] at hchars
  obtain ⟨hname, hbody⟩ := Delimited.append_cons_inj
    (fun hc => (Kind.char_of_mem_name hc).2 rfl) (fun hc => (Kind.char_of_mem_name hc).2 rfl)
    hchars
  have hkind : r.kind = s.kind := Kind.name_injective (String.toList_inj.mp hname)
  have hparts (t : Record) : ∀ field ∈ t.fields.map String.toList, field ≠ [] ∧ ',' ∉ field := by
    intro _ hmem
    obtain ⟨field, hfield, rfl⟩ := List.mem_map.mp hmem
    refine ⟨?_, fun hc => (char_of_mem_field hfield hc).2 rfl⟩
    obtain ⟨i, label, slot, -, -, -, rfl⟩ := mem_fields_iff.mp hfield
    simp
  have hfields := Delimited.intercalate_inj (hparts r) (hparts s) (List.append_cancel_right hbody)
  exact ext_slots hkind (slots_eq_of_fields hkind
    ((List.map_inj_right fun _ _ => String.toList_inj.mp).mp hfields))

/-- The text of a record is in printable characters. -/
theorem plainAscii_of_mem_text {c : Char} (h : c ∈ r.text.toList) : Glyphless.plainAscii c := by
  have hfields : c ∈ [',', ' '].intercalate (r.fields.map String.toList) →
      Glyphless.plainAscii c := by
    intro hc
    rcases Delimited.mem_of_mem_intercalate hc with hsep | ⟨_, hpart, hc⟩
    · have hall : [',', ' '].all Glyphless.plainAscii := by decide
      exact List.all_eq_true.mp hall c hsep
    · obtain ⟨field, hfield, rfl⟩ := List.mem_map.mp hpart
      exact (char_of_mem_field hfield hc).1
  rw [toList_text] at h
  simp only [List.mem_append, List.mem_cons, List.not_mem_nil, or_false] at h
  rcases h with hname | rfl | hbody | rfl
  · exact (Kind.char_of_mem_name hname).1
  · decide
  · exact hfields hbody
  · decide

/-- **A record stands on one line**: its text holds nothing that ends a line. -/
theorem not_mem_text_of_mem_lineBreaks {c : Char} (hc : c ∈ Glyphless.lineBreaks) :
    c ∉ r.text.toList :=
  fun h => Glyphless.not_plainAscii_of_mem_lineBreaks hc (plainAscii_of_mem_text h)

/-! ### The line of a record -/

theorem isLine_listing (r : Record) (index : Nat) : Delimited.IsLine (r.listing index) := by
  have hindex : '\n' ∉ (Layout.alignLeft 4 (Decimal.plain index)).toList := by
    intro h
    rw [Layout.alignLeft, String.toList_append, Layout.toList_blanks, List.mem_append] at h
    rcases h with hdigit | hblank
    · exact absurd (Decimal.isDigit_of_mem_plain hdigit) (by decide)
    · exact absurd (List.eq_of_mem_replicate hblank) (by decide)
  have htext : '\n' ∉ r.text.toList := not_mem_text_of_mem_lineBreaks (by decide)
  refine ⟨'#' :: (Layout.alignLeft 4 (Decimal.plain index)).toList ++ ' ' :: r.text.toList, ?_, ?_⟩
  · simp [hindex, htext]
  · simp [listing]

theorem listing_inj {index : Nat} (h : r.listing index = s.listing index) : r = s := by
  have htext : r.text ++ "\n" = s.text ++ "\n" := by
    simpa [listing, String.append_assoc, String.append_right_inj] using h
  exact text_inj ((String.append_left_inj _).mp htext)

end Record

namespace Log

theorem isLine_of_mem_lines {log : Log} {line : String} (h : line ∈ log.lines) :
    Delimited.IsLine line := by
  obtain ⟨x, -, rfl⟩ := List.mem_map.mp h
  exact x.1.isLine_listing x.2

/-- **A log is known by its lines.** -/
theorem lines_inj {a b : Log} (h : a.lines = b.lines) : a = b := by
  refine ext_toList (List.ext_getElem? fun i => ?_)
  have hline (log : Log) : log.lines[i]? = log.toList[i]?.map fun r => r.listing i := by
    simp [lines, Function.comp_def]
  have hlines : a.lines[i]? = b.lines[i]? := by rw [h]
  rw [hline, hline] at hlines
  exact Option.map_injective (fun _ _ => Record.listing_inj) hlines

theorem length_lines (log : Log) : log.lines.length = log.size := by
  simp [lines]

/-- **A log is known by its listing.** -/
theorem listing_inj {a b : Log} (h : a.listing = b.listing) : a = b :=
  lines_inj (Delimited.join_lines_inj (fun _ => isLine_of_mem_lines)
    (fun _ => isLine_of_mem_lines) h)

/-- The listing of a log goes whole to a sink without limit. -/
theorem write_unlimited (log : Log) :
    log.write .unlimited = (⟨log.listing.toUTF8, none⟩, .ok ()) :=
  Sink.writeAll_unlimited log.lines

/-- **A listing loses nothing.**

* The listing of a log is written whole, and it has as many line feeds as there are records.
* Two logs that are listed alike are equal.
* Two records that have one text are equal, whatever their kinds and whichever of their
  slots are set.
* The text of a record holds nothing that ends a line. -/
theorem listing_faithful :
    (∀ log : Log, log.write .unlimited = (⟨log.listing.toUTF8, none⟩, .ok ()) ∧
      log.listing.toList.count '\n' = log.size) ∧
    (∀ a b : Log, (a.write .unlimited).1.bytes = (b.write .unlimited).1.bytes → a = b) ∧
    (∀ r s : Record, r.text = s.text → r = s) ∧
    ∀ r : Record, ∀ c ∈ Glyphless.lineBreaks, c ∉ r.text.toList := by
  refine ⟨fun log => ⟨log.write_unlimited, ?_⟩, fun a b h => ?_, fun r s => Record.text_inj,
    fun r c => Record.not_mem_text_of_mem_lineBreaks⟩
  · rw [listing, Delimited.count_lineFeed_join (fun _ => isLine_of_mem_lines), length_lines]
  · rw [write_unlimited, write_unlimited] at h
    exact listing_inj (String.toByteArray_inj.mp h)

end Log
end ScanAudit
