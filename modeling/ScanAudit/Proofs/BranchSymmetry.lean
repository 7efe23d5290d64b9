import ScanAudit.Check.Branches

/-!
# What the symmetry check says about a log

The check collects the regions of all branch events and then looks the regions up one by
one. Nothing of that shows in its result: the verdict on a log depends on how many branch
starts and how many branch ends the log has for each region
(`ScanAudit.Branches.countOf`), and on the first branch event without a region, if there
is one.

`ScanAudit.Branches.Verdict` states the verdict by these numbers alone, one rule for each
thing that can be found, and `ScanAudit.Branches.check_eq_iff` says that the check follows
the rules. The rules leave no choice: the region to blame is the smallest
one, and a region with branch starts is blamed before any region without. So a larger
region with branch starts comes before a smaller one with branch ends only.
-/

namespace ScanAudit.Branches

/-! ### Counting branch events -/

/-- The kind of event that reports a side of a branch. -/
def kindOf : BranchSide → Kind
  | .start => .branchStart
  | .finish => .branchEnd

theorem kindOf_inj {side side' : BranchSide} : kindOf side = kindOf side' ↔ side = side' := by
  cases side <;> cases side' <;> decide

/-- **How many events of a kind** a log has for a region. -/
def countOf (k : Kind) (region : NodeId) (log : List Record) : Nat :=
  log.countP fun r => r.kind = k ∧ r.region = some region

/-- The record is about a branch and does not name its region. -/
def Orphan (r : Record) : Prop :=
  (r.kind = .branchStart ∨ r.kind = .branchEnd) ∧ r.region = none

@[simp] theorem countOf_nil (k : Kind) (region : NodeId) : countOf k region [] = 0 := rfl

theorem countOf_cons (k : Kind) (region : NodeId) (r : Record) (log : List Record) :
    countOf k region (r :: log) =
      countOf k region log + if r.kind = k ∧ r.region = some region then 1 else 0 := by
  simp [countOf, List.countP_cons]

@[simp] theorem countOf_append (k : Kind) (region : NodeId) (a b : List Record) :
    countOf k region (a ++ b) = countOf k region a + countOf k region b := by
  simp [countOf]

theorem side?_eq_some_iff {k : Kind} {side : BranchSide} : side? k = some side ↔ k = kindOf side := by
  cases k <;> cases side <;> decide

instance : DecidablePred Orphan := fun _ => inferInstanceAs (Decidable (_ ∧ _))

/-- A log with an orphan has a first one. -/
theorem exists_first_orphan {log : List Record} (h : ∃ r ∈ log, Orphan r) :
    ∃ before r after, log = before ++ r :: after ∧ (∀ q ∈ before, ¬Orphan q) ∧ Orphan r := by
  have hsome : (log.find? fun r => Orphan r).isSome := by
    rw [List.find?_isSome]
    simpa using h
  obtain ⟨r, hr⟩ := Option.isSome_iff_exists.mp hsome
  obtain ⟨horphan, before, after, hsplit, hbefore⟩ := List.find?_eq_some_iff_append.mp hr
  exact ⟨before, r, after, hsplit, by simpa using hbefore, by simpa using horphan⟩

/-- A record of a branch that is no orphan names its region. -/
theorem exists_region_of_not_orphan {r : Record} {side : BranchSide} (h : ¬Orphan r)
    (hk : r.kind = kindOf side) : ∃ region, r.region = some region := by
  rcases hr : r.region with _ | region
  · refine absurd ⟨?_, hr⟩ h
    cases side with
    | start => exact Or.inl hk
    | finish => exact Or.inr hk
  · exact ⟨region, rfl⟩

/-! ### The tally counts -/

/-- The regions a tally holds on a side. -/
def Tally.on (t : Tally) : BranchSide → List NodeId
  | .start => t.starts
  | .finish => t.ends

theorem Tally.on_add (t : Tally) (region : NodeId) (side side' : BranchSide) :
    (t.add region side).on side' = if side = side' then region :: t.on side' else t.on side' := by
  cases side <;> cases side' <;> rfl

theorem tally_cons_of_other {r : Record} (h : side? r.kind = none) (index : Nat)
    (rest : List Record) : tally index (r :: rest) = tally (index + 1) rest := by
  rw [tally]
  simp only [h]

theorem tally_cons_of_region {r : Record} {side : BranchSide} {region : NodeId}
    (hk : r.kind = kindOf side) (hr : r.region = some region) (index : Nat)
    (rest : List Record) :
    tally index (r :: rest) = (tally (index + 1) rest).map fun t => t.add region side := by
  rw [tally]
  simp only [side?_eq_some_iff.mpr hk, hr]

/-- The tally ends at an orphan. -/
theorem tally_cons_of_orphan {r : Record} (h : Orphan r) (index : Nat) (rest : List Record) :
    tally index (r :: rest) = .error (.missingRegion r index) := by
  obtain ⟨hk | hk, hr⟩ := h
  · simp only [tally, hk, side?, hr]
  · simp only [tally, hk, side?, hr]

/-- The tally holds each region on each side as often as the log has events for it. -/
def Tally.Counts (t : Tally) (log : List Record) : Prop :=
  ∀ side region, (t.on side).count region = countOf (kindOf side) region log

theorem Tally.Counts.starts {t : Tally} {log : List Record} (h : t.Counts log)
    (region : NodeId) : t.starts.count region = countOf .branchStart region log :=
  h .start region

theorem Tally.Counts.ends {t : Tally} {log : List Record} (h : t.Counts log)
    (region : NodeId) : t.ends.count region = countOf .branchEnd region log :=
  h .finish region

/-- **A log without orphans has a tally**, which counts its branch events. -/
theorem exists_tally {log : List Record} (h : ∀ r ∈ log, ¬Orphan r) (index : Nat) :
    ∃ t, tally index log = .ok t ∧ t.Counts log := by
  induction log generalizing index with
  | nil => exact ⟨_, rfl, fun side region => by cases side <;> rfl⟩
  | cons r rest ih =>
    -- the tally of the rest comes first, and this record is added to it
    obtain ⟨t, ht, hcount⟩ := ih (fun q hq => h q (by simp [hq])) (index + 1)
    rcases hside : side? r.kind with _ | side
    · refine ⟨t, by rw [tally_cons_of_other hside, ht], fun side' region => ?_⟩
      have hk : r.kind ≠ kindOf side' := by
        rw [Ne, ← side?_eq_some_iff, hside]
        simp
      rw [hcount, countOf_cons, if_neg fun hc => hk hc.1, Nat.add_zero]
    · have hk : r.kind = kindOf side := side?_eq_some_iff.mp hside
      obtain ⟨region, hr⟩ := exists_region_of_not_orphan (h r (by simp)) hk
      refine ⟨t.add region side, by rw [tally_cons_of_region hk hr, ht]; rfl, ?_⟩
      intro side' region'
      rw [Tally.on_add, countOf_cons, hk, hr, ← hcount side' region']
      by_cases hs : side = side'
      · subst hs
        simp [List.count_cons]
      · simp [hs, kindOf_inj]

/-- **The first orphan ends the tally**, whatever else is in the log. -/
theorem tally_of_orphan {before after : List Record} {r : Record}
    (hbefore : ∀ q ∈ before, ¬Orphan q) (hr : Orphan r) (index : Nat) :
    tally index (before ++ r :: after) = .error (.missingRegion r (index + before.length)) := by
  induction before generalizing index with
  | nil => exact tally_cons_of_orphan hr index after
  | cons q before ih =>
    have hrest := ih (fun x hx => hbefore x (by simp [hx])) (index + 1)
    rw [List.length_cons, Nat.add_comm before.length, ← Nat.add_assoc, List.cons_append]
    rcases hside : side? q.kind with _ | side
    · rw [tally_cons_of_other hside, hrest]
    · have hk : q.kind = kindOf side := side?_eq_some_iff.mp hside
      obtain ⟨region, hregion⟩ := exists_region_of_not_orphan (hbefore q (by simp)) hk
      rw [tally_cons_of_region hk hregion, hrest]
      rfl

/-! ### The smallest region -/

/-- **The smallest region** with a property. -/
def Least (P : NodeId → Prop) (region : NodeId) : Prop :=
  P region ∧ ∀ other, P other → region.number ≤ other.number

theorem Least.unique {P : NodeId → Prop} {a b : NodeId} (ha : Least P a) (hb : Least P b) :
    a = b := by
  cases a with
  | mk m hm =>
    cases b with
    | mk n hn =>
      obtain rfl : m = n := Nat.le_antisymm (ha.2 _ hb.1) (hb.2 _ ha.1)
      rfl

/-- A property that some region has is had by a smallest region. -/
theorem exists_least {P : NodeId → Prop} (h : ∃ region, P region) :
    ∃ region, Least P region := by
  obtain ⟨region, hregion⟩ := h
  induction hn : region.number using Nat.strongRecOn generalizing region with
  | _ n ih =>
    by_cases hsmaller : ∃ other, P other ∧ other.number < region.number
    · obtain ⟨other, hother, hlt⟩ := hsmaller
      exact ih other.number (hn ▸ hlt) other hother rfl
    · refine ⟨region, hregion, fun other hother => Nat.le_of_not_lt fun hlt => ?_⟩
      exact hsmaller ⟨other, hother, hlt⟩

theorem mem_ascending {regions : List NodeId} {region : NodeId} :
    region ∈ ascending regions ↔ region ∈ regions := by
  rw [ascending, List.mem_mergeSort, List.mem_eraseDups]

/-- In order, each region is at most as large as the ones after it. -/
theorem pairwise_ascending (regions : List NodeId) :
    (ascending regions).Pairwise fun a b => a.number ≤ b.number := by
  have htrans : ∀ a b c : NodeId,
      decide (a.number ≤ b.number) → decide (b.number ≤ c.number) →
        decide (a.number ≤ c.number) := by
    intro a b c hab hbc
    simp only [decide_eq_true_eq] at hab hbc ⊢
    exact Nat.le_trans hab hbc
  have htotal : ∀ a b : NodeId,
      decide (a.number ≤ b.number) || decide (b.number ≤ a.number) := by
    intro a b
    simp only [Bool.or_eq_true, decide_eq_true_eq]
    exact Nat.le_total a.number b.number
  have h := List.pairwise_mergeSort htrans htotal regions.eraseDups
  exact h.imp of_decide_eq_true

/-- **Looking regions up in order** ends at the smallest one with a fault, or finds none
because there is none. -/
theorem findSome?_ascending_cases {regions : List NodeId} {fault : NodeId → Option Violation}
    {P : NodeId → Prop} (hP : ∀ p, p ∈ regions ∧ fault p ≠ none ↔ P p) :
    (∃ region, Least P region ∧ (ascending regions).findSome? fault = fault region) ∨
      ((∀ p, ¬P p) ∧ (ascending regions).findSome? fault = none) := by
  rcases hfind : (ascending regions).findSome? fault with _ | v
  · refine Or.inr ⟨fun p hp => ?_, rfl⟩
    obtain ⟨hmem, hfault⟩ := (hP p).mpr hp
    exact hfault (List.findSome?_eq_none_iff.mp hfind p (mem_ascending.mpr hmem))
  · obtain ⟨smaller, region, larger, hsplit, hfault, hnone⟩ :=
      List.findSome?_eq_some_iff.mp hfind
    have hsorted := pairwise_ascending regions
    rw [hsplit, List.pairwise_append, List.pairwise_cons] at hsorted
    have hregion : region ∈ regions := by
      rw [← mem_ascending, hsplit]
      simp
    refine Or.inl ⟨region, ⟨(hP region).mp ⟨hregion, by simp [hfault]⟩, fun other hother => ?_⟩,
      hfault.symm⟩
    obtain ⟨hmem, hother⟩ := (hP other).mpr hother
    rw [← mem_ascending, hsplit] at hmem
    -- the regions before the one found have no fault, and those after it are not smaller
    rcases List.mem_append.mp hmem with hsmaller | hlarger
    · exact absurd (hnone other hsmaller) hother
    · rcases List.mem_cons.mp hlarger with rfl | hlarger
      · exact Nat.le_refl _
      · exact hsorted.2.1.1 other hlarger

/-! ### The rules -/

section Rules

variable (log : List Record)

/-- The region has branch starts, and another number of branch ends. -/
def Unequal (region : NodeId) : Prop :=
  0 < countOf .branchStart region log ∧
    countOf .branchStart region log ≠ countOf .branchEnd region log

/-- The region has branch ends and no branch starts. -/
def Startless (region : NodeId) : Prop :=
  countOf .branchStart region log = 0 ∧ 0 < countOf .branchEnd region log

/-- **The verdict on a log**, by precedence: the first branch event without a region; the
smallest region with branch starts that does not have as many branch ends; the smallest
region with branch ends only; or nothing. -/
inductive Verdict : Except Violation Unit → Prop
  /-- An orphan is reported with its position when no orphan comes before it. -/
  | orphan {before after : List Record} {r : Record} : log = before ++ r :: after →
      (∀ q ∈ before, ¬Orphan q) → Orphan r →
      Verdict (.error (.missingRegion r before.length))
  /-- A region with branch starts may have no branch end at all. -/
  | endless {region : NodeId} : (∀ r ∈ log, ¬Orphan r) → Least (Unequal log) region →
      countOf .branchEnd region log = 0 →
      Verdict (.error (.branchSideMissing region .finish))
  /-- Or it may have some, but not as many. -/
  | unequal {region : NodeId} : (∀ r ∈ log, ¬Orphan r) → Least (Unequal log) region →
      0 < countOf .branchEnd region log →
      Verdict (.error (.branchCounts region (countOf .branchStart region log)
        (countOf .branchEnd region log)))
  /-- A region with branch ends only is reported when no region is of the kinds above. -/
  | startless {region : NodeId} : (∀ r ∈ log, ¬Orphan r) → (∀ p, ¬Unequal log p) →
      Least (Startless log) region → Verdict (.error (.branchSideMissing region .start))
  /-- Otherwise nothing is wrong. -/
  | symmetric : (∀ r ∈ log, ¬Orphan r) → (∀ p, ¬Unequal log p) → (∀ p, ¬Startless log p) →
      Verdict (.ok ())

end Rules

/-! ### The check follows the rules -/

section Check

variable {log : List Record} {t : Tally} {region : NodeId}

/-- What the first look finds about a region, by the numbers of its events. -/
theorem Tally.Counts.unequal?_eq (h : t.Counts log) (region : NodeId) :
    t.unequal? region =
      if countOf .branchEnd region log = 0 then some (.branchSideMissing region .finish)
      else if countOf .branchStart region log ≠ countOf .branchEnd region log then
        some (.branchCounts region (countOf .branchStart region log)
          (countOf .branchEnd region log))
      else none := by
  simp only [Tally.unequal?, h.starts, h.ends]

/-- The first look blames the unequal regions. -/
theorem Tally.Counts.unequal_iff (h : t.Counts log) (p : NodeId) :
    p ∈ t.starts ∧ t.unequal? p ≠ none ↔ Unequal log p := by
  rw [← List.count_pos_iff, h.starts, h.unequal?_eq, Unequal]
  refine and_congr_right fun hpos => ?_
  by_cases hzero : countOf .branchEnd p log = 0
  · have hne : countOf .branchStart p log ≠ 0 := Nat.pos_iff_ne_zero.mp hpos
    simp [hzero, hne]
  · by_cases heq : countOf .branchStart p log = countOf .branchEnd p log <;>
      simp [hzero, heq]

theorem Tally.Counts.startless_iff (h : t.Counts log) (p : NodeId) :
    p ∈ t.ends ∧ t.startless? p ≠ none ↔ Startless log p := by
  have hstarts : p ∈ t.starts ↔ 0 < countOf .branchStart p log := by
    rw [← List.count_pos_iff, h.starts]
  rw [← List.count_pos_iff, h.ends, Startless, Tally.startless?, and_comm]
  refine and_congr_left fun _ => ?_
  by_cases hmem : p ∈ t.starts
  · have hne : countOf .branchStart p log ≠ 0 := Nat.pos_iff_ne_zero.mp (hstarts.mp hmem)
    simp [hmem, hne]
  · have hzero : countOf .branchStart p log = 0 := Nat.eq_zero_of_not_pos (mt hstarts.mpr hmem)
    simp [hmem, hzero]

/-- The check fails with what is wrong with its tally. -/
theorem check_of_violation {v : Violation} (h : tally 0 log = .ok t)
    (hv : t.violation? = some v) : check log = .error v := by
  simp only [check, h, hv]

theorem check_of_no_violation (h : tally 0 log = .ok t) (hv : t.violation? = none) :
    check log = .ok () := by
  simp only [check, h, hv]

/-- **The first orphan is reported**, whatever else is in the log. -/
theorem check_of_orphan {before after : List Record} {r : Record}
    (hbefore : ∀ q ∈ before, ¬Orphan q) (hr : Orphan r) :
    check (before ++ r :: after) = .error (.missingRegion r before.length) := by
  rw [check, tally_of_orphan hbefore hr, Nat.zero_add]

/-- **The smallest unequal region is reported** in a log without orphans. -/
theorem check_of_unequal (hnamed : ∀ r ∈ log, ¬Orphan r) (h : Least (Unequal log) region) :
    check log = .error
      (if countOf .branchEnd region log = 0 then .branchSideMissing region .finish
        else .branchCounts region (countOf .branchStart region log)
          (countOf .branchEnd region log)) := by
  obtain ⟨t, ht, hcounts⟩ := exists_tally hnamed 0
  rcases findSome?_ascending_cases hcounts.unequal_iff with
    ⟨found, hfound, hfind⟩ | ⟨hnone, -⟩
  · obtain rfl := hfound.unique h
    refine check_of_violation ht ?_
    rw [Tally.violation?, hfind, hcounts.unequal?_eq]
    by_cases hzero : countOf .branchEnd found log = 0
    · simp [hzero]
    · simp [hzero, h.1.2]
  · exact absurd h.1 (hnone region)

/-- **The smallest region with branch ends only is reported** when no region is unequal. -/
theorem check_of_startless (hnamed : ∀ r ∈ log, ¬Orphan r) (hequal : ∀ p, ¬Unequal log p)
    (h : Least (Startless log) region) :
    check log = .error (.branchSideMissing region .start) := by
  obtain ⟨t, ht, hcounts⟩ := exists_tally hnamed 0
  rcases findSome?_ascending_cases hcounts.unequal_iff with
    ⟨found, hfound, -⟩ | ⟨-, hfirst⟩
  · exact absurd hfound.1 (hequal found)
  -- the first look has found nothing, so the second one decides
  rcases findSome?_ascending_cases hcounts.startless_iff with
    ⟨found, hfound, hsecond⟩ | ⟨hnone, -⟩
  · obtain rfl := hfound.unique h
    have hmem : found ∉ t.starts := by
      rw [← List.count_pos_iff, hcounts.starts, h.1.1]
      exact Nat.lt_irrefl 0
    refine check_of_violation ht ?_
    rw [Tally.violation?, hfirst, hsecond, Option.none_or, Tally.startless?, if_neg hmem]
  · exact absurd h.1 (hnone region)

/-- **A log passes** when it has no orphan and no region is to blame. -/
theorem check_of_symmetric (hnamed : ∀ r ∈ log, ¬Orphan r) (hequal : ∀ p, ¬Unequal log p)
    (hstarted : ∀ p, ¬Startless log p) : check log = .ok () := by
  obtain ⟨t, ht, hcounts⟩ := exists_tally hnamed 0
  rcases findSome?_ascending_cases hcounts.unequal_iff with
    ⟨found, hfound, -⟩ | ⟨-, hfirst⟩
  · exact absurd hfound.1 (hequal found)
  rcases findSome?_ascending_cases hcounts.startless_iff with
    ⟨found, hfound, -⟩ | ⟨-, hsecond⟩
  · exact absurd hfound.1 (hstarted found)
  refine check_of_no_violation ht ?_
  rw [Tally.violation?, hfirst, hsecond, Option.none_or]

/-- **The check does what the rules say.** -/
theorem check_of_verdict {result : Except Violation Unit} (h : Verdict log result) :
    check log = result := by
  cases h with
  | orphan hlog hbefore hr =>
    rw [hlog]
    exact check_of_orphan hbefore hr
  | endless hnamed hleast hzero => rw [check_of_unequal hnamed hleast, if_pos hzero]
  | unequal hnamed hleast hpos =>
    rw [check_of_unequal hnamed hleast, if_neg (Nat.pos_iff_ne_zero.mp hpos)]
  | startless hnamed hequal hleast => exact check_of_startless hnamed hequal hleast
  | symmetric hnamed hequal hstarted => exact check_of_symmetric hnamed hequal hstarted

/-- **Some rule applies** to every log. -/
theorem exists_verdict (log : List Record) : ∃ result, Verdict log result := by
  by_cases horphan : ∃ r ∈ log, Orphan r
  · obtain ⟨before, r, after, hlog, hbefore, hr⟩ := exists_first_orphan horphan
    exact ⟨_, .orphan hlog hbefore hr⟩
  have hnamed : ∀ r ∈ log, ¬Orphan r := fun r hr ho => horphan ⟨r, hr, ho⟩
  by_cases hunequal : ∃ p, Unequal log p
  · obtain ⟨region, hleast⟩ := exists_least hunequal
    rcases Nat.eq_zero_or_pos (countOf .branchEnd region log) with hzero | hpos
    · exact ⟨_, .endless hnamed hleast hzero⟩
    · exact ⟨_, .unequal hnamed hleast hpos⟩
  have hequal : ∀ p, ¬Unequal log p := fun p hp => hunequal ⟨p, hp⟩
  by_cases hstartless : ∃ p, Startless log p
  · obtain ⟨region, hleast⟩ := exists_least hstartless
    exact ⟨_, .startless hnamed hequal hleast⟩
  · exact ⟨_, .symmetric hnamed hequal fun p hp => hstartless ⟨p, hp⟩⟩

/-- **The rules decide the check**: as one of them always applies and the check does what it
says, the check does nothing else. -/
theorem check_eq_iff {result : Except Violation Unit} : check log = result ↔ Verdict log result := by
  constructor
  · rintro rfl
    obtain ⟨result, hverdict⟩ := exists_verdict log
    rwa [check_of_verdict hverdict]
  · exact check_of_verdict

/-- **A log passes exactly when every branch event names its region and every region has as
many branch starts as branch ends.** -/
theorem check_eq_ok_iff :
    check log = .ok () ↔
      (∀ r ∈ log, ¬Orphan r) ∧
        ∀ p, countOf .branchStart p log = countOf .branchEnd p log := by
  rw [check_eq_iff]
  constructor
  · intro h
    cases h with
    | symmetric hnamed hequal hstarted =>
      refine ⟨hnamed, fun p => ?_⟩
      have hp := hequal p
      have hp' := hstarted p
      rw [Unequal] at hp
      rw [Startless] at hp'
      omega
  · rintro ⟨hnamed, hcounts⟩
    refine .symmetric hnamed (fun p hp => hp.2 (hcounts p)) fun p hp => ?_
    have hzero := hcounts p
    rw [hp.1] at hzero
    exact absurd hzero.symm (Nat.pos_iff_ne_zero.mp hp.2)

end Check

/-- **The verdict of the check is exact**: it follows the rules of
`ScanAudit.Branches.Verdict`, and in particular a log passes exactly when every branch event
names its region and every region has as many branch starts as branch ends. -/
theorem check_eq_iff_verdict (log : List Record) :
    (∀ result, check log = result ↔ Verdict log result) ∧
      (check log = .ok () ↔
        (∀ r ∈ log, ¬Orphan r) ∧
          ∀ p, countOf .branchStart p log = countOf .branchEnd p log) :=
  ⟨fun _ => check_eq_iff, check_eq_ok_iff⟩

end ScanAudit.Branches
