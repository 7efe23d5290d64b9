import ScanAudit.Sink

/-!
# Writing where room is limited

A sink with room for so many bytes keeps that many bytes of what is written to it, and
answers whether this was all (`ScanAudit.Sink.write_of_room`). Two things follow.

* It does not matter in how many pieces a text arrives (`ScanAudit.Sink.writeAll_eq_write`).
  A failure in one of the pieces is the failure of the text, and the bytes before it are the
  bytes of the text up to there, even if that is inside a character.
* A failure uses up all the room. From then on the sink is full (`ScanAudit.Sink.Full`): it
  keeps no byte more, and takes no text but the empty one.
-/

namespace ScanAudit.Sink

/-! ### The first bytes of a text -/

/-- An array has no bytes beyond its size. -/
theorem extract_of_size_le {bytes : ByteArray} {n : Nat} (h : bytes.size ≤ n) :
    bytes.extract 0 n = bytes := by
  calc bytes.extract 0 n = (bytes.extract 0 bytes.size).extract 0 n := by
        rw [ByteArray.extract_zero_size]
    _ = bytes.extract 0 (min n bytes.size) := by rw [ByteArray.extract_extract, Nat.zero_add]; simp
    _ = bytes := by rw [Nat.min_eq_right h, ByteArray.extract_zero_size]

/-- **The first bytes of two texts**: those of the first, and what is left for the second. -/
theorem extract_append (a b : ByteArray) (n : Nat) :
    (a ++ b).extract 0 n = a.extract 0 n ++ b.extract 0 (n - a.size) := by
  rw [ByteArray.extract_append, Nat.zero_sub]

theorem extract_zero (bytes : ByteArray) : bytes.extract 0 0 = .empty :=
  ByteArray.extract_eq_empty_iff.mpr (Nat.min_le_left 0 _)

/-! ### A sink with limited room -/

variable {s : Sink} {room : Nat}

/-- **The answer to a text of some size**: whether there is room for all of it. -/
def fits (room size : Nat) : Except WriteError Unit :=
  if size ≤ room then .ok () else .error .diskFull

theorem fits_eq_ok_iff {size : Nat} : fits room size = .ok () ↔ size ≤ room := by
  rw [fits]
  split <;> simp_all

/-- What is left of the room after one text decides about the next one. -/
theorem fits_sub {size : Nat} (h : size ≤ room) (more : Nat) :
    fits (room - size) more = fits room (size + more) := by
  have hiff : more ≤ room - size ↔ size + more ≤ room := by omega
  simp only [fits, hiff]

/-- **A sink keeps as much of a text as there is room for**, and says whether that is all. -/
theorem write_of_room (h : s.room = some room) (text : String) :
    s.write text = (⟨s.bytes ++ text.toUTF8.extract 0 room, some (room - text.utf8ByteSize)⟩,
      fits room text.utf8ByteSize) := by
  rcases Nat.lt_or_ge room text.utf8ByteSize with hover | hfit
  · rw [write_of_lt h hover, fits, if_neg (Nat.not_le.mpr hover),
      Nat.sub_eq_zero_of_le (Nat.le_of_lt hover)]
  · have hwhole : text.toUTF8.extract 0 room = text.toUTF8 := extract_of_size_le hfit
    rw [write_of_le h hfit, fits, if_pos hfit, hwhole]

/-- **Several texts are kept as far as there is room for all of them together.** -/
theorem writeAll_of_room (h : s.room = some room) (texts : List String) :
    s.writeAll texts =
      (⟨s.bytes ++ (String.join texts).toUTF8.extract 0 room,
        some (room - (String.join texts).utf8ByteSize)⟩,
        fits room (String.join texts).utf8ByteSize) := by
  induction texts generalizing s room with
  | nil =>
    cases s with
    | mk bytes room' =>
      obtain rfl : room' = some room := h
      have hempty : ByteArray.empty.extract 0 room = .empty := extract_of_size_le (Nat.zero_le room)
      simp [writeAll, fits, hempty]
  | cons text texts ih =>
    have hbytes : (String.join (text :: texts)).toUTF8 =
        text.toUTF8 ++ (String.join texts).toUTF8 := by
      rw [String.join_cons]
      rfl
    have hsize : (String.join (text :: texts)).utf8ByteSize =
        text.utf8ByteSize + (String.join texts).utf8ByteSize := by
      rw [String.join_cons, String.utf8ByteSize_append]
    rw [writeAll, write_of_room h, hbytes, extract_append, hsize]
    by_cases hfit : text.utf8ByteSize ≤ room
    · -- the text is taken whole, and the others share the room that is left
      rw [fits_eq_ok_iff.mpr hfit]
      simp only
      rw [ih rfl, ByteArray.append_assoc, Nat.sub_sub, fits_sub hfit]
      rfl
    · -- nothing is left for the others
      rw [fits, if_neg hfit, fits, if_neg (by omega)]
      have hnone : room - text.toUTF8.size = 0 := Nat.sub_eq_zero_of_le (Nat.le_of_not_le hfit)
      have hroom : room - text.utf8ByteSize =
          room - (text.utf8ByteSize + (String.join texts).utf8ByteSize) := by omega
      simp only
      rw [hnone, extract_zero, ByteArray.append_empty, hroom]

/-- **A text may be written in any number of pieces**, whatever the room. -/
theorem writeAll_eq_write (s : Sink) (texts : List String) :
    s.writeAll texts = s.write (String.join texts) := by
  rcases h : s.room with _ | room
  · rw [writeAll_of_unlimited h, write_of_unlimited h]
  · rw [writeAll_of_room h, write_of_room h]

/-- **A write succeeds exactly when the whole text is kept.** -/
theorem write_eq_ok_iff (s : Sink) (text : String) :
    (s.write text).2 = .ok () ↔ (s.write text).1.bytes = s.bytes ++ text.toUTF8 := by
  rcases h : s.room with _ | room
  · rw [write_of_unlimited h]
    exact iff_of_true rfl rfl
  · rw [write_of_room h, fits_eq_ok_iff, ByteArray.append_right_inj]
    constructor
    · exact extract_of_size_le
    · intro hwhole
      have hsize := congrArg ByteArray.size hwhole
      rw [ByteArray.size_extract, Nat.sub_zero] at hsize
      exact Nat.le_trans (Nat.le_of_eq hsize.symm) (Nat.min_le_left _ _)

/-! ### A full sink -/

/-- **A sink is full** when there is no room left in it. -/
def Full (s : Sink) : Prop :=
  s.room = some 0

/-- **A full sink keeps nothing more**, and refuses every text but the empty one. -/
theorem Full.write (h : s.Full) {text : String} (htext : 0 < text.utf8ByteSize) :
    s.write text = (s, .error .diskFull) := by
  cases s with
  | mk bytes room =>
    obtain rfl : room = some 0 := h
    rw [write_of_lt rfl htext, extract_zero, ByteArray.append_empty]

/-- **A failed write leaves a full sink.** -/
theorem full_of_write_eq_error {sink : Sink} {text : String} {e : WriteError}
    (h : s.write text = (sink, .error e)) : sink.Full := by
  rcases hroom : s.room with _ | room
  · rw [write_of_unlimited hroom] at h
    exact absurd h (by simp)
  · rw [write_of_room hroom, Prod.mk.injEq] at h
    obtain ⟨rfl, hfailed⟩ := h
    have hover : ¬text.utf8ByteSize ≤ room := by
      intro hfit
      rw [fits_eq_ok_iff.mpr hfit] at hfailed
      exact absurd hfailed (by simp)
    exact congrArg some (Nat.sub_eq_zero_of_le (Nat.le_of_not_le hover))

end ScanAudit.Sink
