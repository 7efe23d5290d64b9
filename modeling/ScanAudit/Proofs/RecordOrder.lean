import Mathlib.Data.Finset.Card
import ScanAudit.Proofs.Duplicates

/-!
# The order of records

Records are compared by their kinds and then by their slots from the first to the last, where an
absent slot comes before every number (`ScanAudit.Record.Before`). Kinds and numbers are ordered
linearly, and so are records: the comparison of records is put together from these by a rank and
by taking the first difference, and both ways keep the laws of an order.

So sorting a list of records depends on nothing but which records are in it, and how often
(`ScanAudit.Record.sort_eq_of_perm`), and equal records stand next to each other in a sorted
list (`ScanAudit.Record.nodup_of_isChain`).

The check for repeated records can rely on this order. It walks over the log and asks for each
record where it was seen before. The answer is the same whether the records seen so far are
compared for equality one by one or are looked up in a search tree, where nothing but their
order is known (`ScanAudit.Duplicates.check_eq_scanOrdered`).
-/

namespace ScanAudit

/-! ### The parts of a record -/

instance : Std.TransOrd Kind :=
  inferInstanceAs (Std.TransCmp (compareOn Kind.rank))

instance : Std.LawfulEqOrd Kind where
  eq_of_compare h := Kind.rank_injective (Std.LawfulEqOrd.eq_of_compare h)

instance : Std.TransOrd NodeId :=
  inferInstanceAs (Std.TransCmp (compareOn NodeId.number))

instance : Std.LawfulEqOrd NodeId where
  eq_of_compare {a b} h := by
    have hnumber : a.number = b.number := Std.LawfulEqOrd.eq_of_compare h
    cases a
    cases b
    exact (NodeId.mk.injEq ..).mpr hnumber

/-- The rank of a kind is its place among all kinds. -/
theorem Kind.idxOf_all (k : Kind) : all.idxOf k = k.rank := by
  cases k <;> rfl

theorem Kind.compare_eq_lt_iff {a b : Kind} :
    compare a b = .lt ↔ all.idxOf a < all.idxOf b := by
  rw [idxOf_all, idxOf_all]
  exact Nat.compare_eq_lt

/-- **One slot comes before another**: an absent one before every number, and a smaller number
before a larger one. -/
inductive SlotBefore : Option NodeId → Option NodeId → Prop
  /-- No node comes first. -/
  | absent {node : NodeId} : SlotBefore none (some node)
  /-- Nodes are ordered by number. -/
  | smaller {a b : NodeId} : a.number < b.number → SlotBefore (some a) (some b)

theorem compare_slot_eq_lt_iff {x y : Option NodeId} : compare x y = .lt ↔ SlotBefore x y := by
  constructor
  · intro h
    cases x with
    | none =>
      cases y with
      | none => exact absurd h (by decide)
      | some b => exact .absent
    | some a =>
      cases y with
      | none => exact absurd h (by simp [compare])
      | some b => exact .smaller (Nat.compare_eq_lt.mp h)
  · intro h
    cases h with
    | absent => rfl
    | smaller h => exact Nat.compare_eq_lt.mpr h

namespace Record

variable {a b : Record} {records others : List Record}

/-! ### The order -/

/-- **One record comes before another**: its kind does, in the list of all kinds, or else the
kinds agree and its slots do, at the first of the four where the two records differ. -/
def Before (a b : Record) : Prop :=
  Kind.all.idxOf a.kind < Kind.all.idxOf b.kind ∨
    a.kind = b.kind ∧ List.Lex SlotBefore a.slots b.slots

instance : Std.TransOrd Record :=
  inferInstanceAs (Std.TransCmp (compareLex (compareOn kind) <| compareLex (compareOn slot0) <|
    compareLex (compareOn slot1) <| compareLex (compareOn slot2) (compareOn slot3)))

/-- Records are compared part by part, and the first difference decides. -/
theorem compare_eq_then (a b : Record) :
    compare a b = (compare a.kind b.kind).then ((compare a.slot0 b.slot0).then
      ((compare a.slot1 b.slot1).then ((compare a.slot2 b.slot2).then
        (compare a.slot3 b.slot3)))) :=
  rfl

/-- **Records compare equal exactly when they agree** in kind and slots. -/
theorem compare_eq_eq_iff : compare a b = .eq ↔ a.kind = b.kind ∧ a.slots = b.slots := by
  simp only [compare_eq_then, Ordering.then_eq_eq, Std.LawfulEqOrd.compare_eq_iff_eq, slots,
    List.cons.injEq, and_true]

instance : Std.LawfulEqOrd Record where
  eq_of_compare h := (compare_eq_eq_iff.mp h).elim ext_slots

/-- **A record compares less exactly when it comes before** the other one. -/
theorem compare_eq_lt_iff : compare a b = .lt ↔ Before a b := by
  simp only [compare_eq_then, Ordering.then_eq_lt, Std.LawfulEqOrd.compare_eq_iff_eq,
    Kind.compare_eq_lt_iff, compare_slot_eq_lt_iff, Before, slots, List.cons_lex_cons_iff,
    List.not_lex_nil, and_false, or_false]

theorem compare_eq_gt_iff : compare a b = .gt ↔ Before b a := by
  rw [Std.OrientedCmp.gt_iff_lt, compare_eq_lt_iff]

/-! ### Sorted records -/

/-- **A record is at most another one**: it compares less or equal. -/
def AtMost (a b : Record) : Prop :=
  (compare a b).isLE

theorem AtMost.antisymm (hab : AtMost a b) (hba : AtMost b a) : a = b :=
  Std.LawfulEqOrd.eq_of_compare (Std.OrientedCmp.isLE_antisymm hab hba)

theorem AtMost.trans {c : Record} (hab : AtMost a b) (hbc : AtMost b c) : AtMost a c :=
  Std.TransCmp.isLE_trans hab hbc

theorem atMost_total (a b : Record) : AtMost a b ∨ AtMost b a := by
  have hswap : compare b a = (compare a b).swap := Std.OrientedOrd.eq_swap
  rw [AtMost, AtMost, hswap]
  cases compare a b <;> decide

theorem sort_perm (records : List Record) : (sort records).Perm records :=
  List.mergeSort_perm records _

theorem pairwise_sort (records : List Record) : (sort records).Pairwise AtMost := by
  have htotal (a b : Record) : ((compare a b).isLE || (compare b a).isLE) = true := by
    rw [Bool.or_eq_true]
    exact atMost_total a b
  exact @List.pairwise_mergeSort _ (fun a b => (compare a b).isLE) (fun _ _ _ => AtMost.trans)
    htotal records

/-- **Sorting forgets the order** in which the records came. -/
theorem sort_eq_of_perm (h : records.Perm others) : sort records = sort others :=
  List.Perm.eq_of_pairwise (fun _ _ _ _ => AtMost.antisymm) (pairwise_sort records)
    (pairwise_sort others) ((sort_perm records).trans (h.trans (sort_perm others).symm))

/-! ### Repeated records -/

/-- **In a sorted list equal records are neighbours**: what stands between two equal records is
equal to both. -/
theorem nodup_of_isChain (hsorted : records.Pairwise AtMost) (h : records.IsChain (· ≠ ·)) :
    records.Nodup := by
  induction records with
  | nil => exact List.nodup_nil
  | cons a rest ih =>
    obtain ⟨hfirst, hrest⟩ := List.pairwise_cons.mp hsorted
    cases rest with
    | nil => exact List.nodup_singleton a
    | cons b rest =>
      obtain ⟨hne, hchain⟩ := List.isChain_cons_cons.mp h
      refine List.nodup_cons.mpr ⟨fun ha => ?_, ih hrest hchain⟩
      have hab : AtMost a b := hfirst b List.mem_cons_self
      rcases List.mem_cons.mp ha with rfl | hlater
      · exact hne rfl
      · exact hne (hab.antisymm ((List.pairwise_cons.mp hrest).1 a hlater))

theorem nodup_iff_isChain_sort : records.Nodup ↔ (sort records).IsChain (· ≠ ·) := by
  rw [← (sort_perm records).nodup_iff]
  exact ⟨List.Pairwise.isChain, nodup_of_isChain (pairwise_sort records)⟩

theorem nodup_iff_card : records.Nodup ↔ records.toFinset.card = records.length :=
  (Multiset.toFinset_card_eq_card_iff_nodup (m := (records : Multiset Record))).symm

end Record

/-! ### Records seen before, by their order -/

namespace Duplicates

/-- **A walk that looks records up by their order.** The records seen so far stand in a search
tree, each with its position, and a record is found there by comparing alone. -/
def scanOrdered (seen : Std.TreeMap Record Nat) (index : Nat) :
    List Record → Except Violation Unit
  | [] => .ok ()
  | r :: rest =>
    match seen[r]? with
    | some first => .error (.duplicate r first index)
    | none => scanOrdered (seen.insert r index) (index + 1) rest

/-- One more record is found behind the others. -/
theorem idxOf?_concat {seen : List Record} {r : Record} (h : r ∉ seen) (a : Record) :
    (seen ++ [r]).idxOf? a = if r = a then some seen.length else seen.idxOf? a := by
  by_cases hra : r = a
  · have hnone : seen.idxOf? r = none := List.idxOf?_eq_none_iff.mpr h
    rw [List.idxOf?] at hnone
    rw [if_pos hra, ← hra, List.idxOf?, List.findIdx?_append, hnone]
    simp
  · rw [if_neg hra, List.idxOf?, List.findIdx?_append]
    simp [hra]

/-- **Both walks go on together**, as long as they find every record at the same position. -/
theorem scanOrdered_eq_scan {tree : Std.TreeMap Record Nat} {seen : List Record}
    (h : ∀ a, tree[a]? = seen.idxOf? a) (rest : List Record) :
    scanOrdered tree seen.length rest = scan seen rest := by
  induction rest generalizing tree seen with
  | nil => rfl
  | cons r rest ih =>
    rw [scanOrdered, scan, h]
    rcases hr : seen.idxOf? r with _ | first
    · have hnew : r ∉ seen := List.idxOf?_eq_none_iff.mp hr
      have hlength : seen.length + 1 = (seen ++ [r]).length := by simp
      simp only [hlength]
      refine ih fun a => ?_
      -- the tree has the new record where it compares equal, which is where it is equal
      rw [Std.TreeMap.getElem?_insert, idxOf?_concat hnew, h]
      simp only [Std.LawfulEqOrd.compare_eq_iff_eq]
    · rfl

/-- **The check may look records up by their order.** -/
theorem check_eq_scanOrdered (records : List Record) : check records = scanOrdered ∅ 0 records :=
  (scanOrdered_eq_scan (fun _ => Std.TreeMap.getElem?_emptyc) records).symm

end Duplicates

namespace Record

/-- **The order of records is lawful, and repeats can be found by it.**

* A record comes before another one by its kind, in the list of all kinds, and among records of
  one kind by the first slot that differs, where an absent slot comes before every number and
  numbers are compared by value. This is what comparing two records tells; they compare equal
  exactly when they agree in kind and all slots.
* The order is antisymmetric, transitive and total.
* Sorting leaves the records of a list in increasing order, each as often as before, and two
  lists with the same records are sorted alike.
* The check for repeated records passes exactly when there are as many different records as
  there are records, and exactly when no two neighbours are equal once the records are sorted.
  It finds the same whether it looks records up by equality or by their order. -/
theorem lawful_order :
    (∀ a b : Record, (compare a b = .lt ↔ Before a b) ∧ (compare a b = .gt ↔ Before b a) ∧
      (compare a b = .eq ↔ a.kind = b.kind ∧ a.slots = b.slots)) ∧
    (∀ a b : Record, AtMost a b → AtMost b a → a = b) ∧
    (∀ a b c : Record, AtMost a b → AtMost b c → AtMost a c) ∧
    (∀ a b : Record, AtMost a b ∨ AtMost b a) ∧
    (∀ records, (sort records).Perm records ∧ (sort records).Pairwise AtMost) ∧
    (∀ records others, records.Perm others → sort records = sort others) ∧
    ∀ records, (Duplicates.check records = .ok () ↔ records.toFinset.card = records.length) ∧
      (Duplicates.check records = .ok () ↔ (sort records).IsChain (· ≠ ·)) ∧
      Duplicates.check records = Duplicates.scanOrdered ∅ 0 records :=
  ⟨fun _ _ => ⟨compare_eq_lt_iff, compare_eq_gt_iff, compare_eq_eq_iff⟩,
    fun _ _ => AtMost.antisymm, fun _ _ _ => AtMost.trans, atMost_total,
    fun records => ⟨sort_perm records, pairwise_sort records⟩, fun _ _ => sort_eq_of_perm,
    fun records => ⟨Duplicates.check_eq_ok_iff_nodup.trans nodup_iff_card,
      Duplicates.check_eq_ok_iff_nodup.trans nodup_iff_isChain_sort,
      Duplicates.check_eq_scanOrdered records⟩⟩

end Record

end ScanAudit
