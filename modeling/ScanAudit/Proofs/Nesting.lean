import Mathlib.Data.List.Induction
import ScanAudit.Check.Regions

/-!
# The bracket grammar of a log

What it means for the regions of a log to nest, said without a walk. Three classes of
logs are defined by how they are built.

* In a *balanced* log (`ScanAudit.Regions.Balanced`) every opening event is closed by a
  later event of the same region, with a balanced log in between, and nothing else
  closes anything.
* An *accepted* log (`ScanAudit.Regions.Accepted`) may also hold closing events that
  close nothing, but only outside every region it opens.
* A *viable* log (`ScanAudit.Regions.Viable`) is the beginning of an accepted one: some
  regions are still pending, each followed by what happened inside it so far.

A log is balanced or accepted by its first event, and viable by its last one. That is
why the walk of the check meets the first two through
`ScanAudit.Regions.scan_of_balanced` and `ScanAudit.Regions.scan_of_accepted`, by
induction on how they are built, and the third through
`ScanAudit.Regions.viable_of_scan`, by induction from the end of the log. Together they say
that a walk ends with certain regions pending exactly when the log is viable with these
regions (`ScanAudit.Regions.scan_eq_ok_iff_viable`): the pending regions are all that the
walk has to remember, and they depend on the log alone.
-/

namespace ScanAudit.Regions

/-! ### Events of the nesting -/

/-- The record opens the region. -/
def Opens (d : Direction) (region : NodeId) (r : Record) : Prop :=
  r.kind = d.openKind ∧ r.region = some region

/-- The record closes the region. -/
def Closes (d : Direction) (region : NodeId) (r : Record) : Prop :=
  r.kind = d.closeKind ∧ r.region = some region

/-- The record neither opens nor closes anything. -/
def Neutral (d : Direction) (r : Record) : Prop :=
  r.kind ≠ d.openKind ∧ r.kind ≠ d.closeKind

/-- The record opens or closes a region and does not say which. -/
def Nameless (d : Direction) (r : Record) : Prop :=
  (r.kind = d.openKind ∨ r.kind = d.closeKind) ∧ r.region = none

variable {d : Direction}

theorem role_eq_neutral_iff {k : Kind} :
    d.role k = .neutral ↔ k ≠ d.openKind ∧ k ≠ d.closeKind := by
  cases d <;> cases k <;> decide

/-! ### The grammar -/

/-- **A balanced log**: what it opens it closes, and it closes nothing else. -/
inductive Balanced (d : Direction) : List Record → Prop
  /-- The empty log is balanced. -/
  | nil : Balanced d []
  /-- A neutral event changes nothing. -/
  | neutral {r : Record} {rest : List Record} : Neutral d r → Balanced d rest →
      Balanced d (r :: rest)
  /-- A region is opened and closed around a balanced log. -/
  | block {region : NodeId} {o c : Record} {inner rest : List Record} : Opens d region o →
      Balanced d inner → Closes d region c → Balanced d rest →
      Balanced d (o :: (inner ++ c :: rest))

/-- **An accepted log**: a balanced one, except that outside every region it opens it may
close regions that it never opened. -/
inductive Accepted (d : Direction) : List Record → Prop
  /-- The empty log is accepted. -/
  | nil : Accepted d []
  /-- A neutral event changes nothing. -/
  | neutral {r : Record} {rest : List Record} : Neutral d r → Accepted d rest →
      Accepted d (r :: rest)
  /-- Any region may be closed while none is open. -/
  | close {region : NodeId} {c : Record} {rest : List Record} : Closes d region c →
      Accepted d rest → Accepted d (c :: rest)
  /-- A region is opened and closed around a balanced log. -/
  | block {region : NodeId} {o c : Record} {inner rest : List Record} : Opens d region o →
      Balanced d inner → Closes d region c → Accepted d rest →
      Accepted d (o :: (inner ++ c :: rest))

/-- **A viable log with its pending regions**, innermost first: an accepted log followed,
for each pending region from the outermost to the innermost, by the event that opens it
and a balanced log. -/
inductive Viable (d : Direction) : List NodeId → List Record → Prop
  /-- An accepted log is viable, and nothing is pending. -/
  | accepted {log : List Record} : Accepted d log → Viable d [] log
  /-- One more region may be opened, with a balanced log inside it so far. -/
  | opened {region : NodeId} {pending : List NodeId} {o : Record} {log inner : List Record} :
      Viable d pending log → Opens d region o → Balanced d inner →
      Viable d (region :: pending) (log ++ o :: inner)

/-! ### Putting logs together -/

/-- One balanced log after another is balanced. -/
theorem Balanced.append {a b : List Record} (ha : Balanced d a) (hb : Balanced d b) :
    Balanced d (a ++ b) := by
  induction ha with
  | nil => exact hb
  | neutral hr _ ih => exact .neutral hr ih
  | block ho hi hc _ _ ih =>
    rw [List.cons_append, List.append_assoc, List.cons_append]
    exact .block ho hi hc ih

theorem Accepted.append {a b : List Record} (ha : Accepted d a) (hb : Accepted d b) :
    Accepted d (a ++ b) := by
  induction ha with
  | nil => exact hb
  | neutral hr _ ih => exact .neutral hr ih
  | close hc _ ih => exact .close hc ih
  | block ho hi hc _ ih =>
    rw [List.cons_append, List.append_assoc, List.cons_append]
    exact .block ho hi hc ih

/-- A balanced log is accepted. -/
theorem Balanced.accepted {log : List Record} (h : Balanced d log) : Accepted d log := by
  induction h with
  | nil => exact .nil
  | neutral hr _ ih => exact .neutral hr ih
  | block ho hi hc _ _ ih => exact .block ho hi hc ih

/-- A balanced log changes nothing about what is pending. -/
theorem Viable.append {pending : List NodeId} {log more : List Record}
    (h : Viable d pending log) (hm : Balanced d more) : Viable d pending (log ++ more) := by
  cases h with
  | accepted hlog => exact .accepted (hlog.append hm.accepted)
  | opened hlog ho hi =>
    rw [List.append_assoc, List.cons_append]
    exact .opened hlog ho (hi.append hm)

theorem Viable.neutral {pending : List NodeId} {log : List Record} {r : Record}
    (h : Viable d pending log) (hr : Neutral d r) : Viable d pending (log ++ [r]) :=
  h.append (.neutral hr .nil)

theorem Viable.close_nothing {region : NodeId} {log : List Record} {c : Record}
    (h : Viable d [] log) (hc : Closes d region c) : Viable d [] (log ++ [c]) := by
  cases h with
  | accepted hlog => exact .accepted (hlog.append (.close hc .nil))

/-- **Closing the innermost pending region** leaves the ones around it pending, since the
region has become a block of the log around it. -/
theorem Viable.close {region : NodeId} {pending : List NodeId} {log : List Record} {c : Record}
    (h : Viable d (region :: pending) log) (hc : Closes d region c) :
    Viable d pending (log ++ [c]) := by
  cases h with
  | opened hlog ho hi =>
    rw [List.append_assoc, List.cons_append]
    exact hlog.append (.block ho hi hc .nil)

/-! ### One event of the walk -/

theorem step_of_neutral {r : Record} (h : Neutral d r) (pending : List NodeId) (index : Nat) :
    step d pending index r = .ok pending := by
  simp only [step, role_eq_neutral_iff.mpr h]

theorem step_of_opens {region : NodeId} {r : Record} (h : Opens d region r)
    (pending : List NodeId) (index : Nat) :
    step d pending index r = .ok (region :: pending) := by
  simp only [step, Direction.role_eq_opens_iff.mpr h.1, h.2]

theorem step_of_closes_nil {region : NodeId} {r : Record} (h : Closes d region r)
    (index : Nat) : step d [] index r = .ok [] := by
  simp only [step, Direction.role_eq_closes_iff.mpr h.1, h.2]

/-- A closing event takes away the region in front when that is its own. -/
theorem step_of_closes {region : NodeId} {r : Record} (h : Closes d region r)
    (pending : List NodeId) (index : Nat) :
    step d (region :: pending) index r = .ok pending := by
  simp only [step, Direction.role_eq_closes_iff.mpr h.1, h.2, if_pos]

theorem step_of_closes_ne {region innermost : NodeId} {r : Record} (h : Closes d region r)
    (hne : region ≠ innermost) (pending : List NodeId) (index : Nat) :
    step d (innermost :: pending) index r = .error (.regionMismatch innermost region index) := by
  simp only [step, Direction.role_eq_closes_iff.mpr h.1, h.2, if_neg hne.symm]

/-- An event that should name a region and does not is reported, whatever is pending. -/
theorem step_of_nameless {r : Record} (h : Nameless d r) (pending : List NodeId) (index : Nat) :
    step d pending index r = .error (.missingRegion r index) := by
  rcases h with ⟨hk | hk, hr⟩
  · simp only [step, Direction.role_eq_opens_iff.mpr hk, hr]
  · simp only [step, Direction.role_eq_closes_iff.mpr hk, hr]

/-- **What an event does to the nesting depends on its role and its region only.** Two events
that agree in these do the same, also in other directions and at other positions, if `f`
tells of the second what it is told of the first. -/
theorem step_eq_mapError {d' : Direction} {r r' : Record} {index index' : Nat}
    {f : Violation → Violation} (hrole : d'.role r'.kind = d.role r.kind)
    (hregion : r'.region = r.region)
    (hmissing : f (.missingRegion r index) = .missingRegion r' index')
    (hmismatch : ∀ innermost closed,
      f (.regionMismatch innermost closed index) = .regionMismatch innermost closed index')
    (pending : List NodeId) :
    step d' pending index' r' = (step d pending index r).mapError f := by
  simp only [step, hrole, hregion]
  cases d.role r.kind with
  | neutral => rfl
  | opens =>
    rcases r.region with _ | region
    · simp only [Except.mapError, hmissing]
    · rfl
  | closes =>
    rcases r.region with _ | region
    · simp only [Except.mapError, hmissing]
    · rcases pending with _ | ⟨innermost, outer⟩
      · rfl
      · by_cases h : innermost = region
        · simp only [if_pos h, Except.mapError]
        · simp only [if_neg h, Except.mapError, hmismatch]

/-- **The kinds of events**: one that is not neutral names no region, or it opens or closes
the one it names. -/
theorem event_cases (d : Direction) (r : Record) :
    Neutral d r ∨ Nameless d r ∨ (∃ region, Opens d region r) ∨ ∃ region, Closes d region r := by
  by_cases hopen : r.kind = d.openKind
  · rcases hr : r.region with _ | region
    · exact Or.inr (Or.inl ⟨Or.inl hopen, hr⟩)
    · exact Or.inr (Or.inr (Or.inl ⟨region, hopen, hr⟩))
  by_cases hclose : r.kind = d.closeKind
  · rcases hr : r.region with _ | region
    · exact Or.inr (Or.inl ⟨Or.inr hclose, hr⟩)
    · exact Or.inr (Or.inr (Or.inr ⟨region, hclose, hr⟩))
  exact Or.inl ⟨hopen, hclose⟩

/-- **What a step that goes well has done.** -/
theorem step_eq_ok_iff {pending pending' : List NodeId} {index : Nat} {r : Record} :
    step d pending index r = .ok pending' ↔
      (Neutral d r ∧ pending' = pending) ∨
      (∃ region, Opens d region r ∧ pending' = region :: pending) ∨
      ∃ region, Closes d region r ∧
        (pending = [] ∧ pending' = [] ∨ pending = region :: pending') := by
  constructor
  · intro h
    rcases event_cases d r with hr | hr | ⟨region, hr⟩ | ⟨region, hr⟩
    · rw [step_of_neutral hr, Except.ok.injEq] at h
      exact Or.inl ⟨hr, h.symm⟩
    · rw [step_of_nameless hr] at h
      exact absurd h (by simp)
    · rw [step_of_opens hr, Except.ok.injEq] at h
      exact Or.inr (Or.inl ⟨region, hr, h.symm⟩)
    · refine Or.inr (Or.inr ⟨region, hr, ?_⟩)
      cases pending with
      | nil =>
        rw [step_of_closes_nil hr, Except.ok.injEq] at h
        exact Or.inl ⟨rfl, h.symm⟩
      | cons innermost outer =>
        by_cases hne : region = innermost
        · subst hne
          rw [step_of_closes hr, Except.ok.injEq] at h
          exact Or.inr (by rw [h])
        · rw [step_of_closes_ne hr hne] at h
          exact absurd h (by simp)
  · rintro (⟨hr, rfl⟩ | ⟨region, hr, rfl⟩ | ⟨region, hr, ⟨rfl, rfl⟩ | rfl⟩)
    · exact step_of_neutral hr _ _
    · exact step_of_opens hr _ _
    · exact step_of_closes_nil hr _
    · exact step_of_closes hr _ _

/-- **What a step that fails has met**: an event that names no region, or one that closes
another region than the innermost. -/
theorem step_eq_error_iff {pending : List NodeId} {index : Nat} {r : Record} {v : Violation} :
    step d pending index r = .error v ↔
      (Nameless d r ∧ v = .missingRegion r index) ∨
      ∃ closed innermost outer, Closes d closed r ∧ pending = innermost :: outer ∧
        closed ≠ innermost ∧ v = .regionMismatch innermost closed index := by
  constructor
  · intro h
    rcases event_cases d r with hr | hr | ⟨region, hr⟩ | ⟨region, hr⟩
    · rw [step_of_neutral hr] at h
      exact absurd h (by simp)
    · rw [step_of_nameless hr, Except.error.injEq] at h
      exact Or.inl ⟨hr, h.symm⟩
    · rw [step_of_opens hr] at h
      exact absurd h (by simp)
    · cases pending with
      | nil =>
        rw [step_of_closes_nil hr] at h
        exact absurd h (by simp)
      | cons innermost outer =>
        by_cases hne : region = innermost
        · subst hne
          rw [step_of_closes hr] at h
          exact absurd h (by simp)
        · rw [step_of_closes_ne hr hne, Except.error.injEq] at h
          exact Or.inr ⟨region, innermost, outer, hr, rfl, hne, h.symm⟩
  · rintro (⟨hr, rfl⟩ | ⟨closed, innermost, outer, hr, rfl, hne, rfl⟩)
    · exact step_of_nameless hr _ _
    · exact step_of_closes_ne hr hne _ _

/-! ### The walk over a log -/

theorem scan_singleton (pending : List NodeId) (index : Nat) (r : Record) :
    scan d pending index [r] = step d pending index r := by
  rw [scan]
  cases step d pending index r with
  | ok pending' => rfl
  | error v => rfl

theorem scan_append_eq_ok_iff {pending pending' : List NodeId} {index : Nat}
    {a b : List Record} :
    scan d pending index (a ++ b) = .ok pending' ↔
      ∃ middle, scan d pending index a = .ok middle ∧
        scan d middle (index + a.length) b = .ok pending' := by
  rw [scan_append]
  cases scan d pending index a with
  | error v => simp
  | ok middle => simp

theorem scan_cons_eq_ok_iff {pending pending' : List NodeId} {index : Nat} {r : Record}
    {rest : List Record} :
    scan d pending index (r :: rest) = .ok pending' ↔
      ∃ middle, step d pending index r = .ok middle ∧
        scan d middle (index + 1) rest = .ok pending' := by
  rw [scan]
  cases step d pending index r with
  | error v => simp
  | ok middle => simp

/-- **A walk stops at the first event that breaks the nesting**, in the state in which it
reached that event, whatever comes after. -/
theorem scan_eq_error_iff {pending : List NodeId} {index : Nat} {log : List Record}
    {v : Violation} :
    scan d pending index log = .error v ↔
      ∃ before r after middle, log = before ++ r :: after ∧
        scan d pending index before = .ok middle ∧
        step d middle (index + before.length) r = .error v := by
  constructor
  · intro h
    induction log generalizing pending index with
    | nil => exact absurd h (by simp [scan])
    | cons r rest ih =>
      cases hstep : step d pending index r with
      | error v' =>
        -- the first event is the one that stops the walk
        simp only [scan, hstep, Except.error.injEq] at h
        exact ⟨[], r, rest, pending, rfl, rfl, by simpa [h] using hstep⟩
      | ok next =>
        simp only [scan, hstep] at h
        obtain ⟨before, q, after, middle, rfl, hbefore, hq⟩ := ih h
        refine ⟨r :: before, q, after, middle, rfl, ?_, ?_⟩
        · exact scan_cons_eq_ok_iff.mpr ⟨next, hstep, hbefore⟩
        · rw [List.length_cons, Nat.add_comm before.length, ← Nat.add_assoc]
          exact hq
  · rintro ⟨before, r, after, middle, rfl, hbefore, hr⟩
    rw [scan_append, hbefore]
    simp only [scan, hr]

/-- **A walk over a balanced log** ends with the regions it started with. -/
theorem scan_of_balanced {log : List Record} (h : Balanced d log) (pending : List NodeId)
    (index : Nat) : scan d pending index log = .ok pending := by
  induction h generalizing pending index with
  | nil => rfl
  | neutral hr _ ih => exact scan_cons_eq_ok_iff.mpr ⟨_, step_of_neutral hr _ _, ih _ _⟩
  | block ho _ hc _ ihInner ihRest =>
    refine scan_cons_eq_ok_iff.mpr ⟨_, step_of_opens ho _ _, ?_⟩
    refine scan_append_eq_ok_iff.mpr ⟨_, ihInner _ _, ?_⟩
    exact scan_cons_eq_ok_iff.mpr ⟨_, step_of_closes hc _ _, ihRest _ _⟩

theorem scan_of_accepted {log : List Record} (h : Accepted d log) (index : Nat) :
    scan d [] index log = .ok [] := by
  induction h generalizing index with
  | nil => rfl
  | neutral hr _ ih => exact scan_cons_eq_ok_iff.mpr ⟨_, step_of_neutral hr _ _, ih _⟩
  | close hc _ ih => exact scan_cons_eq_ok_iff.mpr ⟨_, step_of_closes_nil hc _, ih _⟩
  | block ho hi hc _ ih =>
    refine scan_cons_eq_ok_iff.mpr ⟨_, step_of_opens ho _ _, ?_⟩
    refine scan_append_eq_ok_iff.mpr ⟨_, scan_of_balanced hi _ _, ?_⟩
    exact scan_cons_eq_ok_iff.mpr ⟨_, step_of_closes hc _ _, ih _⟩

theorem scan_of_viable {pending : List NodeId} {log : List Record} (h : Viable d pending log)
    (index : Nat) : scan d [] index log = .ok pending := by
  induction h with
  | accepted hlog => exact scan_of_accepted hlog index
  | opened _ ho hi ih =>
    refine scan_append_eq_ok_iff.mpr ⟨_, ih, ?_⟩
    exact scan_cons_eq_ok_iff.mpr ⟨_, step_of_opens ho _ _, scan_of_balanced hi _ _⟩

/-- **What the walk has passed is viable**, with the regions it holds pending. -/
theorem viable_of_scan {pending : List NodeId} {index : Nat} {log : List Record}
    (h : scan d [] index log = .ok pending) : Viable d pending log := by
  -- from the end, because what is pending is known after the last event only
  induction log using List.reverseRecOn generalizing pending with
  | nil =>
    obtain rfl : [] = pending := by simpa [scan] using h
    exact .accepted .nil
  | append_singleton log r ih =>
    obtain ⟨middle, hlog, hr⟩ := scan_append_eq_ok_iff.mp h
    rw [scan_singleton] at hr
    have hmiddle : Viable d middle log := ih hlog
    rcases step_eq_ok_iff.mp hr with
      ⟨hn, rfl⟩ | ⟨region, ho, rfl⟩ | ⟨region, hc, ⟨rfl, rfl⟩ | rfl⟩
    · exact hmiddle.neutral hn
    · exact .opened hmiddle ho .nil
    · exact hmiddle.close_nothing hc
    · exact hmiddle.close hc

/-- **The walk decides viability.** As the walk is a function, the pending regions of a
viable log are determined by it. -/
theorem scan_eq_ok_iff_viable {pending : List NodeId} {index : Nat} {log : List Record} :
    scan d [] index log = .ok pending ↔ Viable d pending log :=
  ⟨viable_of_scan, fun h => scan_of_viable h index⟩

theorem viable_nil_iff {log : List Record} : Viable d [] log ↔ Accepted d log := by
  constructor
  · intro h
    cases h with
    | accepted hlog => exact hlog
  · exact .accepted

end ScanAudit.Regions
