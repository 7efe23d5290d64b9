import Mathlib.Order.Bounds.Basic
import ScanAudit.Proofs.LevelBlocks

/-!
# Wrong regions

In a log that passes, each opening event has a partner, which closes what it opens. The
partner can be found by counting alone: it is where the events from the opening one on are
level for the first time (`ScanAudit.Regions.Partner`). For between the two stands a balanced
log, and the beginning of a balanced log never closes more than it opens
(`ScanAudit.Regions.Balanced.closings_le_openings`).

So a log with the wrong region on one event of such a pair cannot pass. Up to the partner
everything is as it was, for a balanced log does not care what is pending around it; and there
the two regions meet. An event that names no region at all does not get as far as that, and
is reported where it stands.
-/

namespace ScanAudit

/-! ### Changing the region of an event -/

/-- **The record with another region**, or with none. -/
def Record.withRegion (region : Option NodeId) (r : Record) : Record :=
  { r with slot0 := region }

/-- **The log with another region**, or with none, on the record at a position. -/
def renamed (log : List Record) (index : Nat) (region : Option NodeId) : List Record :=
  log.modify index (.withRegion region)

theorem renamed_append (before after : List Record) (r : Record) (region : Option NodeId) :
    renamed (before ++ r :: after) before.length region =
      before ++ r.withRegion region :: after := by
  rw [renamed, List.modify_eq_take_cons_drop (by simp)]
  simp

namespace Regions

variable {d : Direction} {region : NodeId}

theorem isParallel_of_opens_or_closes {k : Kind} (h : k = d.openKind ∨ k = d.closeKind) :
    k.isParallel := by
  rcases h with rfl | rfl <;> cases d <;> rfl

theorem region_withRegion {r : Record} (h : r.kind = d.openKind ∨ r.kind = d.closeKind)
    (other : Option NodeId) : (r.withRegion other).region = other := by
  have hk : (r.withRegion other).kind.isParallel := isParallel_of_opens_or_closes h
  rw [Record.region, if_pos hk]
  rfl

theorem Opens.withRegion {o : Record} (h : Opens d region o) (other : NodeId) :
    Opens d other (o.withRegion (some other)) :=
  ⟨h.1, region_withRegion (Or.inl h.1) _⟩

theorem Closes.withRegion {c : Record} (h : Closes d region c) (other : NodeId) :
    Closes d other (c.withRegion (some other)) :=
  ⟨h.1, region_withRegion (Or.inr h.1) _⟩

theorem Opens.nameless_withRegion {o : Record} (h : Opens d region o) :
    Nameless d (o.withRegion none) :=
  ⟨Or.inl h.1, region_withRegion (Or.inl h.1) _⟩

theorem Closes.nameless_withRegion {c : Record} (h : Closes d region c) :
    Nameless d (c.withRegion none) :=
  ⟨Or.inr h.1, region_withRegion (Or.inr h.1) _⟩

/-! ### Partners -/

/-- **The partner of an event** is at the first position after it where the events from it
on are level. -/
def Partner (d : Direction) (log : List Record) (index partner : Nat) : Prop :=
  IsLeast {i | index < i ∧ i < log.length ∧ Level d (log.extract index (i + 1))} partner

/-- **A balanced log never has closed more than it has opened**: what is left of it is
accepted, and so opens no more than it closes. -/
theorem Balanced.closings_le_openings {a b : List Record} (h : Balanced d (a ++ b)) :
    closings d a ≤ openings d a := by
  have hlevel : openings d (a ++ b) = closings d (a ++ b) := h.level
  have hcheck : check d (a ++ b) = .ok () := (balanced_iff_check.mp h).1
  have hb : Accepted d b := accepted_iff_check.mpr (check_of_append hcheck)
  have hle := hb.openings_le_closings
  rw [openings_append, closings_append] at hlevel
  omega

theorem extract_append_cons (before after : List Record) (r : Record) (n : Nat) :
    (before ++ r :: after).extract before.length (before.length + n + 1) =
      r :: after.take n := by
  simp [List.extract_eq_take_drop, Nat.add_assoc]

/-- **The events around a balanced log are partners.** -/
theorem partner_of_balanced {before inner rest : List Record} {o c : Record}
    (ho : Opens d region o) (hinner : Balanced d inner) (hc : Closes d region c) :
    Partner d (before ++ o :: (inner ++ c :: rest)) before.length
      (before.length + inner.length + 1) := by
  constructor
  · refine ⟨by omega, by simp; omega, ?_⟩
    rw [Nat.add_assoc before.length, extract_append_cons, List.take_length_add_append,
      List.take_succ_cons, List.take_zero]
    exact (Balanced.block ho hinner hc .nil).level
  · rintro i ⟨hlt, -, hlevel⟩
    by_contra hless
    -- an earlier stretch is the opening event with the beginning of what is inside
    obtain ⟨n, rfl⟩ := Nat.exists_eq_add_of_lt hlt
    have hn : n + 1 ≤ inner.length := by omega
    rw [Nat.add_assoc before.length, extract_append_cons, List.take_append_of_le_length hn,
      Level] at hlevel
    have hsplit : Balanced d (inner.take (n + 1) ++ inner.drop (n + 1)) := by
      rwa [List.take_append_drop]
    have hle := hsplit.closings_le_openings
    have hcounts := ho.counts (inner.take (n + 1))
    omega

/-! ### The check at a wrong event -/

/-- **The log around an opening event** that is closed: what comes before it is viable, and up
to the event that closes the region it is balanced. -/
theorem exists_pair {log : List Record} {index : Nat} {o : Record} (h : check d log = .ok ())
    (hget : log[index]? = some o) (ho : Opens d region o) :
    ∃ pending before inner c rest, log = before ++ o :: (inner ++ c :: rest) ∧
      before.length = index ∧ Viable d pending before ∧ Balanced d inner ∧
      Closes d region c := by
  obtain ⟨hsplit, hlength⟩ := split_at_of_getElem? hget
  have haccepted : Accepted d (log.take index ++ o :: log.drop (index + 1)) := by
    rw [← hsplit]
    exact accepted_iff_check.mpr h
  obtain ⟨pending, -, hbefore, -, -⟩ := viable_split (Viable.accepted haccepted)
  obtain ⟨inner, c, rest, hafter, hinner, hc⟩ := haccepted.exists_close ho
  exact ⟨pending, _, inner, c, rest, hafter ▸ hsplit, hlength, hbefore, hinner, hc⟩

section Pair

variable {pending : List NodeId} {before inner : List Record} {o c : Record}

/-- A log with a pair in it, seen from the second event of the pair. -/
theorem pair_append (before inner rest : List Record) (o c : Record) :
    before ++ o :: (inner ++ c :: rest) = (before ++ o :: inner) ++ c :: rest := by
  simp

theorem length_append_cons (before inner : List Record) (o : Record) :
    (before ++ o :: inner).length = before.length + inner.length + 1 := by
  rw [List.length_append, List.length_cons, Nat.add_assoc]

theorem renamed_pair (before inner rest : List Record) (o c : Record)
    (other : Option NodeId) :
    renamed (before ++ o :: (inner ++ c :: rest)) (before.length + inner.length + 1) other =
      before ++ o :: (inner ++ c.withRegion other :: rest) := by
  rw [pair_append, ← length_append_cons before inner o, renamed_append, pair_append]

/-- After a viable log, an event that opens or closes a region without naming it is reported,
whatever comes after it. -/
theorem check_of_nameless {r : Record} (h : Viable d pending before) (hr : Nameless d r)
    (after : List Record) :
    check d (before ++ r :: after) = .error (.missingRegion r before.length) := by
  refine check_eq_missing_iff.mpr ⟨⟨pending, ?_⟩, by simp, hr⟩
  rwa [List.take_left' rfl]

theorem check_of_nameless_close (hbefore : Viable d pending before) (ho : Opens d region o)
    (hinner : Balanced d inner) (hc : Nameless d c) (rest : List Record) :
    check d (before ++ o :: (inner ++ c :: rest)) =
      .error (.missingRegion c (before.length + inner.length + 1)) := by
  rw [pair_append, ← length_append_cons before inner o]
  exact check_of_nameless (.opened hbefore ho hinner) hc rest

/-- **Two events that should be a pair and name different regions** are reported, at the
second. -/
theorem check_of_unlike_pair {opened closed : NodeId} (hbefore : Viable d pending before)
    (ho : Opens d opened o) (hinner : Balanced d inner) (hc : Closes d closed c)
    (hne : closed ≠ opened) (rest : List Record) :
    check d (before ++ o :: (inner ++ c :: rest)) =
      .error (.regionMismatch opened closed (before.length + inner.length + 1)) := by
  have hviable : Viable d (opened :: pending) (before ++ o :: inner) :=
    .opened hbefore ho hinner
  rw [pair_append, ← length_append_cons before inner o]
  refine check_eq_mismatch_iff.mpr ⟨c, pending, by simp, ?_, hc, hne⟩
  rwa [List.take_left' rfl]

end Pair

/-- **A wrong region on one event is always found, and found in the right place.** In a log
that passes, every opening event has a partner, which closes the same region. With another
region on the one or the other, the check reports that the two do not match, at the partner;
with no region on one of them, it reports that event. -/
theorem check_renamed (d : Direction) (log : List Record) (h : check d log = .ok ())
    (index : Nat) (o : Record) (region : NodeId) (hget : log[index]? = some o)
    (ho : Opens d region o) :
    ∃ partner c, Partner d log index partner ∧ log[partner]? = some c ∧ Closes d region c ∧
      (∀ other, other ≠ region →
        check d (renamed log index (some other)) =
            .error (.regionMismatch other region partner) ∧
          check d (renamed log partner (some other)) =
            .error (.regionMismatch region other partner)) ∧
      check d (renamed log index none) = .error (.missingRegion (o.withRegion none) index) ∧
      check d (renamed log partner none) =
        .error (.missingRegion (c.withRegion none) partner) := by
  obtain ⟨pending, before, inner, c, rest, rfl, rfl, hbefore, hinner, hc⟩ :=
    exists_pair h hget ho
  refine ⟨before.length + inner.length + 1, c, partner_of_balanced ho hinner hc, ?_, hc, ?_, ?_, ?_⟩
  · rw [pair_append, ← length_append_cons before inner o]
    simp
  · intro other hne
    rw [renamed_append, renamed_pair]
    exact ⟨check_of_unlike_pair hbefore (ho.withRegion other) hinner hc hne.symm rest,
      check_of_unlike_pair hbefore ho hinner (hc.withRegion other) hne rest⟩
  · rw [renamed_append]
    exact check_of_nameless hbefore ho.nameless_withRegion _
  · rw [renamed_pair]
    exact check_of_nameless_close hbefore ho hinner hc.nameless_withRegion rest

/-- Region 5 in the place of region 4, at its end: the start of region 4 is its partner, past
the whole of region 12, and does not match. -/
theorem check_renamed_nestedLog :
    check .backward Report.nestedLog = .ok () ∧ Partner .backward Report.nestedLog 0 7 ∧
      check .backward (renamed Report.nestedLog 0 (some ⟨5, by decide⟩)) =
        .error (.regionMismatch ⟨5, by decide⟩ ⟨4, by decide⟩ 7) := by
  have hcheck : check .backward Report.nestedLog = .ok () := by cbv
  obtain ⟨partner, c, hpartner, -, -, hother, -⟩ :=
    check_renamed .backward Report.nestedLog hcheck 0 _ ⟨4, by decide⟩ rfl ⟨rfl, rfl⟩
  have hrenamed := (hother ⟨5, by decide⟩ (by decide)).1
  have hseven : check .backward (renamed Report.nestedLog 0 (some ⟨5, by decide⟩)) =
      .error (.regionMismatch ⟨5, by decide⟩ ⟨4, by decide⟩ 7) := by cbv
  rw [hseven] at hrenamed
  obtain rfl : 7 = partner := by simpa using hrenamed
  exact ⟨hcheck, hpartner, hseven⟩

end Regions

end ScanAudit
