import ScanAudit.Export
import ScanAudit.Listing
import ScanAudit.Proofs.LimitedSink

/-!
# Writing a log or a report where room is limited

A log and the report on it are each written in two forms, as a listing and as an export. All
four are written piece by piece: a listing line by line, an export by the pieces of a JSON text.
Each stops at the first piece that does not fit.

Room may end inside any of these pieces, or exactly between two of them. This makes no
difference: of a text that is written in pieces, a sink keeps what it would keep of the whole
text, and the answer is the same (`ScanAudit.Sink.writeAll_eq_write`). So there is one statement
about writing (`ScanAudit.Sink.KeepsWhatFits`), which does not mention the pieces, and each of the
four is a case of it.
-/

namespace ScanAudit

namespace Sink

/-- **Writing a text keeps what fits**, and does nothing else. -/
structure KeepsWhatFits (write : Sink → Sink × Except WriteError Unit) (text : String) : Prop where
  /-- Where there is room for everything, the whole text is written. -/
  whole : write unlimited = (⟨text.toUTF8, none⟩, .ok ())
  /-- Where there is room for so many bytes, writing succeeds if the text has no more, and else
  it fails as the sink does. -/
  answer : ∀ room, (write (withRoom (some room))).2 =
    if text.utf8ByteSize ≤ room then .ok () else .error .diskFull
  /-- The first bytes of the text are kept, up to its end or to the end of the room. -/
  bytes : ∀ room, (write (withRoom (some room))).1.bytes =
    text.toUTF8.extract 0 (min room text.utf8ByteSize)
  /-- Any other pieces of the text, written one after the other up to the first that fails,
  would have done the same to any sink. -/
  pieces : ∀ sink texts, String.join texts = text → sink.writeAll texts = write sink

/-- The first bytes of an array are no more than it has. -/
theorem extract_min (bytes : ByteArray) (n : Nat) :
    bytes.extract 0 (min n bytes.size) = bytes.extract 0 n := by
  calc bytes.extract 0 (min n bytes.size) = (bytes.extract 0 bytes.size).extract 0 n := by
        rw [ByteArray.extract_extract, Nat.zero_add, Nat.zero_add]
    _ = bytes.extract 0 n := by rw [ByteArray.extract_zero_size]

/-- **A text written in pieces keeps what fits.** -/
theorem keepsWhatFits_writeAll (texts : List String) :
    KeepsWhatFits (fun sink => sink.writeAll texts) (String.join texts) where
  whole := writeAll_unlimited texts
  answer room := by
    rw [writeAll_of_room rfl, fits]
  bytes room := by
    have hkept : (String.join texts).toUTF8.extract 0 (min room (String.join texts).utf8ByteSize) =
        (String.join texts).toUTF8.extract 0 room := extract_min _ room
    rw [writeAll_of_room rfl, hkept]
    exact ByteArray.empty_append
  pieces sink others h := by
    rw [writeAll_eq_write, writeAll_eq_write, h]

end Sink

/-- **Writing a log or the report on it keeps what fits**, in all four forms. -/
theorem writes_keep_what_fits (d : Direction) (log : Log) :
    let report := Report.audit d log.toList
    Sink.KeepsWhatFits log.write log.listing ∧
      Sink.KeepsWhatFits report.write report.listing ∧
      Sink.KeepsWhatFits log.writeJson log.json.text ∧
      Sink.KeepsWhatFits report.writeJson report.json.text := by
  intro report
  exact ⟨Sink.keepsWhatFits_writeAll log.lines, Sink.keepsWhatFits_writeAll report.lines,
    Sink.keepsWhatFits_writeAll (log.json.pieces 0),
    Sink.keepsWhatFits_writeAll (report.json.pieces 0)⟩

end ScanAudit
