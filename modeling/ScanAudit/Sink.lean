/-!
# Sinks

A sink takes text and keeps its bytes, in UTF-8. It may have room for a limited number
of bytes only. A text that does not fit is kept up to the last byte for which there is
room, even if that cuts a character in two, and the write fails; a text that fits
exactly is no failure. Writing several texts stops at the first one that fails.
-/

namespace ScanAudit

/-- **Why a write failed.** -/
inductive WriteError
  /-- The sink had no room for all of the text. -/
  | diskFull
deriving DecidableEq

/-- The message of a failed write. -/
def WriteError.message : WriteError → String
  | diskFull => "disk full"

/-- **A sink for text**, with what it holds and the room that is left. -/
structure Sink where
  /-- The bytes written so far. -/
  bytes : ByteArray
  /-- How many more bytes the sink takes; `none` when it takes any number. -/
  room : Option Nat

namespace Sink

/-- An empty sink with the given room. -/
def withRoom (room : Option Nat) : Sink :=
  ⟨.empty, room⟩

/-- An empty sink that takes any text. -/
def unlimited : Sink :=
  withRoom none

/-- **Writing one text**: all of it if there is room, else as much of it as there is
room for. -/
def write (s : Sink) (text : String) : Sink × Except WriteError Unit :=
  let bytes := text.toUTF8
  match s.room with
  | none => (⟨s.bytes ++ bytes, none⟩, .ok ())
  | some room =>
    if bytes.size ≤ room then (⟨s.bytes ++ bytes, some (room - bytes.size)⟩, .ok ())
    else (⟨s.bytes ++ bytes.extract 0 room, some 0⟩, .error .diskFull)

/-- **Writing several texts** one after the other, up to the first that fails. -/
def writeAll (s : Sink) : List String → Sink × Except WriteError Unit
  | [] => (s, .ok ())
  | text :: texts =>
    match s.write text with
    | (s', .ok ()) => s'.writeAll texts
    | (s', .error e) => (s', .error e)

/-- The sink with its room set anew; what it holds stays. -/
def allow (s : Sink) (room : Option Nat) : Sink :=
  { s with room }

/-! ### What a write does -/

/-- A sink without limit takes every text. -/
theorem write_of_unlimited {s : Sink} (h : s.room = none) (text : String) :
    s.write text = (⟨s.bytes ++ text.toUTF8, none⟩, .ok ()) := by
  simp [write, h]

/-- A sink without limit takes several texts as one. -/
theorem writeAll_of_unlimited {s : Sink} (h : s.room = none) (texts : List String) :
    s.writeAll texts = (⟨s.bytes ++ (String.join texts).toUTF8, none⟩, .ok ()) := by
  induction texts generalizing s with
  | nil =>
    cases s with
    | mk bytes room =>
      obtain rfl : room = none := h
      simp [writeAll]
  | cons text texts ih =>
    rw [writeAll, write_of_unlimited h]
    simp only [ih, String.join_cons]
    rw [ByteArray.append_assoc]
    rfl

/-- Several texts on an empty sink without limit. -/
theorem writeAll_unlimited (texts : List String) :
    unlimited.writeAll texts = (⟨(String.join texts).toUTF8, none⟩, .ok ()) := by
  rw [writeAll_of_unlimited rfl]
  rfl

/-- **A text that fits is taken whole** and uses up its size of the room. -/
theorem write_of_le {s : Sink} {room : Nat} (h : s.room = some room) {text : String}
    (hfit : text.utf8ByteSize ≤ room) :
    s.write text = (⟨s.bytes ++ text.toUTF8, some (room - text.utf8ByteSize)⟩, .ok ()) := by
  have hsize : text.toUTF8.size ≤ room := hfit
  simp only [write, h, if_pos hsize]
  rfl

/-- **A text that does not fit is cut** where the room ends, which leaves no room. -/
theorem write_of_lt {s : Sink} {room : Nat} (h : s.room = some room) {text : String}
    (hover : room < text.utf8ByteSize) :
    s.write text = (⟨s.bytes ++ text.toUTF8.extract 0 room, some 0⟩, .error .diskFull) := by
  have hsize : ¬text.toUTF8.size ≤ room := Nat.not_le.mpr hover
  simp only [write, h, if_neg hsize]

end Sink

end ScanAudit
