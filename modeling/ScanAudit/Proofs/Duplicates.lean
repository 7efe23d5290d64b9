import Mathlib.Data.List.Nodup
import Mathlib.Data.Nat.Find
import ScanAudit.Check.Duplicates

/-!
# What the duplicate check says about a log

The check walks over the log with the records it has seen, which are all different as
long as it goes on. So it comes to the end of the log exactly when all records of the log
are different.

Where it stops, it has found the first position that repeats an earlier one
(`ScanAudit.Duplicates.FirstRepeat`). The records before that position are all different, and
so there is only one earlier position that it can repeat.
-/

namespace ScanAudit.Duplicates

/-! ### Logs without a repeat -/

/-- A walk that has seen different records only goes on to the end exactly when the
records to come are different from these and from each other. -/
theorem scan_eq_ok_iff {seen rest : List Record} (hseen : seen.Nodup) :
    scan seen rest = .ok () ↔ (seen ++ rest).Nodup := by
  induction rest generalizing seen with
  | nil => simp [scan, hseen]
  | cons r rest ih =>
    have hsplit : seen ++ r :: rest = seen ++ [r] ++ rest := by simp
    rw [scan, hsplit]
    rcases hr : seen.idxOf? r with _ | first
    · have hnew : r ∉ seen := List.idxOf?_eq_none_iff.mp hr
      refine ih (List.nodup_append.mpr ⟨hseen, by simp, fun a ha b hb => ?_⟩)
      rintro rfl
      exact hnew (List.mem_singleton.mp hb ▸ ha)
    · obtain ⟨hlt, hget, -⟩ := List.idxOf?_eq_some_iff.mp hr
      have hold : r ∈ seen := hget ▸ List.getElem_mem hlt
      refine ⟨fun h => absurd h (by simp), fun h => ?_⟩
      have hfresh := (List.nodup_append.mp (List.nodup_append.mp h).1).2.2
      exact absurd rfl (hfresh r hold r (by simp))

/-- **A log passes exactly when its records are all different.** -/
theorem check_eq_ok_iff_nodup {log : List Record} : check log = .ok () ↔ log.Nodup := by
  rw [check, scan_eq_ok_iff List.nodup_nil, List.nil_append]

/-! ### The first repeat -/

/-- **A position repeats an earlier one**: both hold records of one kind whose four slots
agree. -/
def Repeats (log : List Record) (first index : Nat) : Prop :=
  first < index ∧ ∃ a b, log[first]? = some a ∧ log[index]? = some b ∧
    a.kind = b.kind ∧ a.slots = b.slots

/-- **The first repeat of a log**: no position before it repeats another. -/
def FirstRepeat (log : List Record) (first index : Nat) : Prop :=
  Repeats log first index ∧ ∀ i j, Repeats log i j → index ≤ j

variable {log seen : List Record} {first index : Nat} {r : Record}

/-- A position repeats another when it holds the same record. -/
theorem repeats_iff :
    Repeats log first index ↔ first < index ∧ ∃ r, log[first]? = some r ∧ log[index]? = some r := by
  constructor
  · rintro ⟨hlt, a, b, ha, hb, hkind, hslots⟩
    exact ⟨hlt, b, Record.ext_slots hkind hslots ▸ ha, hb⟩
  · rintro ⟨hlt, r, hfirst, hindex⟩
    exact ⟨hlt, r, r, hfirst, hindex, rfl, rfl⟩

/-- The records before a position are all different when no earlier position repeats one. -/
theorem nodup_take_iff {n : Nat} :
    (log.take n).Nodup ↔ ∀ i j, Repeats log i j → n ≤ j := by
  rw [List.nodup_iff_getElem?_ne_getElem?]
  constructor
  · intro h i j hij
    obtain ⟨hlt, r, hi, hj⟩ := repeats_iff.mp hij
    have hlength : j < log.length := (List.getElem?_eq_some_iff.mp hj).1
    by_contra hjn
    refine h i j hlt (by rw [List.length_take]; omega) ?_
    rw [List.getElem?_take_of_lt (by omega), List.getElem?_take_of_lt (by omega), hi, hj]
  · intro h i j hlt hj heq
    rw [List.length_take] at hj
    rw [List.getElem?_take_of_lt (by omega), List.getElem?_take_of_lt (by omega)] at heq
    have hget : log[j]? = some log[j] := List.getElem?_eq_getElem (by omega)
    have := h i j (repeats_iff.mpr ⟨hlt, log[j], heq.trans hget, hget⟩)
    omega

/-- The records of a log are all different when no position repeats another. -/
theorem nodup_iff_forall_not_repeats : log.Nodup ↔ ∀ i j, ¬Repeats log i j := by
  rw [← List.take_length (l := log), nodup_take_iff, List.take_length]
  refine forall₂_congr fun i j => ⟨fun h hij => ?_, fun h hij => absurd hij h⟩
  obtain ⟨-, r, -, hj⟩ := repeats_iff.mp hij
  exact absurd (h hij) (Nat.not_le.mpr (List.getElem?_eq_some_iff.mp hj).1)

theorem exists_firstRepeat (h : ¬log.Nodup) : ∃ first index, FirstRepeat log first index := by
  have hsome : ∃ index first, Repeats log first index := by
    rw [nodup_iff_forall_not_repeats] at h
    push Not at h
    obtain ⟨i, j, hij⟩ := h
    exact ⟨j, i, hij⟩
  classical
  obtain ⟨first, hfirst⟩ := Nat.find_spec hsome
  exact ⟨first, Nat.find hsome, hfirst, fun i j hij => Nat.find_min' hsome ⟨i, hij⟩⟩

/-! ### The walk up to the first repeat -/

/-- **Different records keep the walk going.** -/
theorem scan_append_of_nodup {before : List Record} (h : (seen ++ before).Nodup)
    (rest : List Record) : scan seen (before ++ rest) = scan (seen ++ before) rest := by
  induction before generalizing seen with
  | nil => simp
  | cons r before ih =>
    have hsplit : seen ++ r :: before = seen ++ [r] ++ before := by simp
    have hnew : seen.idxOf? r = none := by
      rw [List.idxOf?_eq_none_iff]
      exact fun hr => (List.nodup_append.mp h).2.2 r hr r (by simp) rfl
    rw [List.cons_append, scan, hnew, hsplit]
    exact ih (hsplit ▸ h)

/-- **A record already seen ends the walk**, with the one position at which it was seen. -/
theorem scan_cons_of_seen (hseen : seen.Nodup) (h : seen[first]? = some r) (rest : List Record) :
    scan seen (r :: rest) = .error (.duplicate r first seen.length) := by
  obtain ⟨hlt, hget⟩ := List.getElem?_eq_some_iff.mp h
  have hidx : seen.idxOf? r = some first := by
    refine List.idxOf?_eq_some_iff.mpr ⟨hlt, hget, fun j hj heq => ?_⟩
    have := hseen.getElem_inj_iff.mp (heq.trans hget.symm)
    omega
  rw [scan, hidx]

/-- **The check fails with the first repeat.** -/
theorem check_of_firstRepeat (h : FirstRepeat log first index) (hr : log[index]? = some r) :
    check log = .error (.duplicate r first index) := by
  obtain ⟨hrepeats, hleast⟩ := h
  obtain ⟨hlt, s, hfirst, hs⟩ := repeats_iff.mp hrepeats
  obtain rfl : s = r := Option.some.inj (hs.symm.trans hr)
  obtain ⟨hlength, hget⟩ := List.getElem?_eq_some_iff.mp hs
  have hbefore : (log.take index).Nodup := nodup_take_iff.mpr hleast
  have hseen : (log.take index)[first]? = some s := by rw [List.getElem?_take_of_lt hlt, hfirst]
  have hwalk : check (log.take index ++ log.drop index) = scan (log.take index) (log.drop index) :=
    scan_append_of_nodup hbefore _
  rw [List.take_append_drop, List.drop_eq_getElem_cons hlength, hget,
    scan_cons_of_seen hbefore hseen, List.length_take,
    Nat.min_eq_left (Nat.le_of_lt hlength)] at hwalk
  exact hwalk

/-- **The check for repeated records is exact.** A log passes when no position repeats
another; else the check fails with the first position that does, the record there, and the
position it repeats, of which there is only one. -/
theorem check_eq_iff_first_repeat (log : List Record) :
    (check log = .ok () ↔ ∀ i j, ¬Repeats log i j) ∧
      (∀ v, check log = .error v ↔ ∃ first index r, FirstRepeat log first index ∧
        log[index]? = some r ∧ v = .duplicate r first index) ∧
      ∀ first index i, FirstRepeat log first index → Repeats log i index → i = first := by
  refine ⟨check_eq_ok_iff_nodup.trans nodup_iff_forall_not_repeats, fun v => ⟨fun h => ?_, ?_⟩,
    fun first index i hfirst hi => ?_⟩
  · have hrepeat : ¬log.Nodup := by
      rw [← check_eq_ok_iff_nodup, h]
      simp
    obtain ⟨first, index, hfirst⟩ := exists_firstRepeat hrepeat
    obtain ⟨-, r, -, hr⟩ := repeats_iff.mp hfirst.1
    rw [check_of_firstRepeat hfirst hr, Except.error.injEq] at h
    exact ⟨first, index, r, hfirst, hr, h.symm⟩
  · rintro ⟨first, index, r, hfirst, hr, rfl⟩
    exact check_of_firstRepeat hfirst hr
  · -- both positions come before `index`, and the records there are different
    obtain ⟨hlt, r, hget, hr⟩ := repeats_iff.mp hfirst.1
    obtain ⟨hlt', s, hget', hs⟩ := repeats_iff.mp hi
    obtain rfl : r = s := Option.some.inj (hr.symm.trans hs)
    have hbefore := nodup_take_iff.mpr hfirst.2
    rw [← List.getElem?_take_of_lt hlt] at hget
    rw [← List.getElem?_take_of_lt hlt'] at hget'
    exact (List.getElem?_inj (List.getElem?_eq_some_iff.mp hget').1 hbefore).mp
      (hget'.trans hget.symm)

end ScanAudit.Duplicates
