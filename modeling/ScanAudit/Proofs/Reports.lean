import ScanAudit.Proofs.Export
import ScanAudit.Proofs.Messages

/-!
# Reports tell what the checks found

A report is written in two forms, as a listing and as an export. Each of them has the number of
events and the message of every violation; that the events are counted right and that the
violations are those of the checks is not their concern, so the statements here are about any
report.

* In a listing, the violations are known by their lines. These can be told apart because no
  message goes over more than one line (`ScanAudit.Report.listing_inj`).
* In an export, the violations are the elements of an array. The kind of a violation is given as
  well, but the message alone would do (`ScanAudit.Report.text_json_inj`).
-/

namespace ScanAudit

namespace Report

variable {r s : Report}

/-- A report is the number of events and the violations. -/
theorem ext_parts (hevents : r.events = s.events) (hfailures : r.failures = s.failures) :
    r = s := by
  cases r
  cases s
  exact (Report.mk.injEq ..).mpr ⟨hevents, hfailures⟩

/-! ### Listings -/

theorem isLine_headline (r : Report) : Delimited.IsLine r.headline := by
  have hverdict : Printable (if r.passed then "all checks passed"
      else Decimal.plain r.failures.length ++ " check(s) failed") := by
    split
    · decide
    · simp +decide
  refine Printable.isLine ?_
  simp only [printable_append, Decimal.printable_plain, hverdict]
  decide

/-- A violation is listed on one line. -/
theorem isLine_failure (v : Violation) : Delimited.IsLine ("  - " ++ v.message ++ "\n") :=
  Printable.isLine (printable_append.mpr ⟨by decide, v.printable_message⟩)

theorem isLine_of_mem_lines {line : String} (h : line ∈ r.lines) : Delimited.IsLine line := by
  rcases List.mem_cons.mp h with rfl | hfailure
  · exact r.isLine_headline
  · obtain ⟨v, -, rfl⟩ := List.mem_map.mp hfailure
    exact isLine_failure v

/-- The first line of a listing tells the number of events. -/
theorem events_eq_of_headline (h : r.headline = s.headline) : r.events = s.events := by
  simp only [headline, String.append_assoc] at h
  exact (Decimal.plain_append_inj (by decide) ((String.append_right_inj _).mp h)).1

/-- **A report is known by its lines.** -/
theorem lines_inj (h : r.lines = s.lines) : r = s := by
  obtain ⟨hheadline, hfailures⟩ := List.cons.inj h
  have hmessage (v w : Violation)
      (hline : "  - " ++ v.message ++ "\n" = "  - " ++ w.message ++ "\n") : v = w := by
    rw [String.append_left_inj, String.append_right_inj] at hline
    exact Violation.message_inj hline
  exact ext_parts (events_eq_of_headline hheadline) ((List.map_inj_right hmessage).mp hfailures)

/-- **A report is known by its listing.** -/
theorem listing_inj (h : r.listing = s.listing) : r = s :=
  lines_inj (Delimited.join_lines_inj (fun _ => isLine_of_mem_lines)
    (fun _ => isLine_of_mem_lines) h)

/-- The listing of a report goes whole to a sink without limit. -/
theorem write_unlimited (r : Report) :
    r.write .unlimited = (⟨r.listing.toUTF8, none⟩, .ok ()) :=
  Sink.writeAll_unlimited r.lines

end Report

/-! ### Exports -/

/-- **An exported violation is known by its message.** -/
theorem Violation.json_inj {v w : Violation} (h : v.json = w.json) : v = w := by
  have hmessage : Json.string v.message = .string w.message :=
    Json.eq_of_ofMembers_eq "message" (by simp) (by simp) h (by simp) (by simp)
  exact message_inj (Json.string.inj hmessage)

namespace Report

variable {r s : Report}

/-- **A report is known by its export.** -/
theorem json_inj (h : r.json = s.json) : r = s := by
  have hevents : Json.number r.events = .number s.events :=
    Json.eq_of_ofMembers_eq "events" (by simp) (by simp) h (by simp) (by simp)
  have hfailures : Json.array (r.failures.map Violation.json) =
      .array (s.failures.map Violation.json) :=
    Json.eq_of_ofMembers_eq "failures" (by simp) (by simp) h (by simp) (by simp)
  refine ext_parts (Json.number.inj hevents) ?_
  exact (List.map_inj_right fun _ _ => Violation.json_inj).mp (Json.array.inj hfailures)

/-- **A report is known by the text of its export.** -/
theorem text_json_inj (h : r.json.text = s.json.text) : r = s :=
  json_inj (Json.text_injective h)

/-- The export of a report goes whole to a sink without limit. -/
theorem writeJson_unlimited (r : Report) :
    r.writeJson .unlimited = (⟨r.json.text.toUTF8, none⟩, .ok ()) :=
  Sink.writeAll_unlimited (r.json.pieces 0)

/-! ### Diagnostics -/

/-- **Diagnostics are unambiguous**, whatever number of events a report gives and whichever
violations.

* The listing of a report and its export are written whole.
* Two reports that are listed alike are equal.
* Two reports that are exported alike are equal.
* Two violations that have one message are equal: they are of one kind, about the same record,
  regions and positions, with the same counts and the same side or direction.
* The message of a violation holds nothing that ends a line. -/
theorem diagnostics_faithful :
    (∀ r : Report, r.write .unlimited = (⟨r.listing.toUTF8, none⟩, .ok ()) ∧
      r.writeJson .unlimited = (⟨r.json.text.toUTF8, none⟩, .ok ())) ∧
    (∀ r s : Report, (r.write .unlimited).1.bytes = (s.write .unlimited).1.bytes → r = s) ∧
    (∀ r s : Report,
      (r.writeJson .unlimited).1.bytes = (s.writeJson .unlimited).1.bytes → r = s) ∧
    (∀ v w : Violation, v.message = w.message → v = w) ∧
    ∀ v : Violation, ∀ c ∈ Glyphless.lineBreaks, c ∉ v.message.toList := by
  refine ⟨fun r => ⟨r.write_unlimited, r.writeJson_unlimited⟩, fun r s h => ?_, fun r s h => ?_,
    fun v w => Violation.message_inj, fun v c => v.printable_message.not_mem_of_mem_lineBreaks⟩
  · rw [write_unlimited, write_unlimited] at h
    exact listing_inj (String.toByteArray_inj.mp h)
  · rw [writeJson_unlimited, writeJson_unlimited] at h
    exact text_json_inj (String.toByteArray_inj.mp h)

end Report

end ScanAudit
