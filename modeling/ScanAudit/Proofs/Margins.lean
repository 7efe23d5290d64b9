import Mathlib.Data.List.Basic
import ScanAudit.Printer

/-!
# Printing up to a line without a margin

Where there is room for everything, nothing but the margins can keep a printer from going on. So
what it does is known beforehand: the level of each line follows from the kinds of the events
before it (`ScanAudit.Printer.levels`), and the printer writes the lines at these levels as long
as there is a margin for each of them (`ScanAudit.Printer.run_of_margins`). At the first line
without a margin the program stops, with the lines before it printed
(`ScanAudit.Printer.run_of_wide`).

The levels are those of a run that is never stopped. Behind a stop they tell nothing about the
printer, and this is why `ScanAudit.Printer.HasMargins` stands before everything that is said
about a whole run.

A margin is two blanks for each level and has at most `ScanAudit.Printer.widestMargin` of them,
so that regions nest at most 32768 deep (`ScanAudit.Printer.run_nested`).
-/

namespace ScanAudit.Printer

variable {d : Direction} {p : Printer} {c : Callback} {cs : List Callback} {depth n : Nat}

/-! ### Levels of events -/

theorem lineDepth_eq (d : Direction) (depth : Nat) (k : Kind) :
    lineDepth d depth k = if k = d.closeKind then depth - 1 else depth := by
  cases d <;> cases k <;> rfl

theorem depthAfter_eq (d : Direction) (depth : Nat) (k : Kind) :
    depthAfter d depth k = if k = d.openKind then depth + 1 else lineDepth d depth k := by
  cases d <;> cases k <;> rfl

/-- **The depth after a run of events** whose lines were all written in full. -/
def depthOf (d : Direction) (depth : Nat) (cs : List Callback) : Nat :=
  cs.foldl (fun depth c => depthAfter d depth c.kind) depth

/-- **The levels of the lines of a run** that starts with `depth` regions open. -/
def levels (d : Direction) (depth : Nat) : List Callback → List Nat
  | [] => []
  | c :: cs => lineDepth d depth c.kind :: levels d (depthAfter d depth c.kind) cs

/-- **The lines of a run** that starts with `depth` regions open. -/
def lines (d : Direction) (depth : Nat) (cs : List Callback) : List String :=
  (levels d depth cs).zipWith lineAt cs

@[simp] theorem length_levels (d : Direction) (depth : Nat) (cs : List Callback) :
    (levels d depth cs).length = cs.length := by
  induction cs generalizing depth with
  | nil => rfl
  | cons c cs ih => simp [levels, ih]

@[simp] theorem length_lines (d : Direction) (depth : Nat) (cs : List Callback) :
    (lines d depth cs).length = cs.length := by
  simp [lines]

theorem lines_cons (d : Direction) (depth : Nat) (c : Callback) (cs : List Callback) :
    lines d depth (c :: cs) =
      lineAt (lineDepth d depth c.kind) c :: lines d (depthAfter d depth c.kind) cs := rfl

/-- **A line stands at the depth that the events before it have led to**, or one below. -/
theorem getElem?_levels (d : Direction) (depth : Nat) (cs : List Callback) (i : Nat) :
    (levels d depth cs)[i]? =
      cs[i]?.map fun c => lineDepth d (depthOf d depth (cs.take i)) c.kind := by
  induction cs generalizing depth i with
  | nil => rfl
  | cons c cs ih =>
    cases i with
    | zero => rfl
    | succ i => exact ih _ i

theorem levels_take (d : Direction) (depth : Nat) (cs : List Callback) (i : Nat) :
    levels d depth (cs.take i) = (levels d depth cs).take i := by
  induction cs generalizing depth i with
  | nil => simp [levels]
  | cons c cs ih =>
    cases i with
    | zero => rfl
    | succ i => simp [levels, ih]

/-- The lines of the beginning of a run are the first of its lines. -/
theorem lines_take (d : Direction) (depth : Nat) (cs : List Callback) (i : Nat) :
    lines d depth (cs.take i) = (lines d depth cs).take i := by
  rw [lines, lines, levels_take, List.take_zipWith]

/-! ### Margins -/

/-- **There is a margin for every line** of a run that starts with `depth` regions open. -/
def HasMargins (d : Direction) (depth : Nat) (cs : List Callback) : Prop :=
  ∀ level ∈ levels d depth cs, 2 * level ≤ widestMargin

instance : Decidable (HasMargins d depth cs) :=
  inferInstanceAs (Decidable (∀ _ ∈ _, _))

theorem hasMargins_cons :
    HasMargins d depth (c :: cs) ↔
      2 * lineDepth d depth c.kind ≤ widestMargin ∧
        HasMargins d (depthAfter d depth c.kind) cs :=
  List.forall_mem_cons

/-- The margins of a run, line by line. -/
theorem hasMargins_iff :
    HasMargins d depth cs ↔ ∀ i c, cs[i]? = some c →
      2 * lineDepth d (depthOf d depth (cs.take i)) c.kind ≤ widestMargin := by
  simp only [HasMargins, List.mem_iff_getElem?, getElem?_levels, Option.map_eq_some_iff]
  constructor
  · exact fun h i c hc => h _ ⟨i, c, hc, rfl⟩
  · rintro h _ ⟨i, c, hc, rfl⟩
    exact h i c hc

/-- **The first line without a margin**, if there is one. -/
theorem exists_first_wide (h : ¬HasMargins d depth cs) :
    ∃ i c, cs[i]? = some c ∧ HasMargins d depth (cs.take i) ∧
      widestMargin < 2 * lineDepth d (depthOf d depth (cs.take i)) c.kind := by
  induction cs generalizing depth with
  | nil => exact absurd (fun level hlevel => absurd hlevel List.not_mem_nil) h
  | cons c cs ih =>
    rcases Nat.lt_or_ge widestMargin (2 * lineDepth d depth c.kind) with hwide | hfits
    · exact ⟨0, c, rfl, fun level hlevel => absurd hlevel List.not_mem_nil, hwide⟩
    · obtain ⟨i, c', hc', hbefore, hwide⟩ := ih fun hrest => h (hasMargins_cons.mpr ⟨hfits, hrest⟩)
      exact ⟨i + 1, c', hc', hasMargins_cons.mpr ⟨hfits, hbefore⟩, hwide⟩

/-! ### Printing where there is room for everything -/

/-- **A line with a margin is written** where there is room for everything. -/
theorem step_of_unlimited (h : p.sink.room = none) (hfits : 2 * p.level c ≤ widestMargin) :
    p.step c =
      (⟨p.direction, depthAfter p.direction p.depth c.kind,
        ⟨p.sink.bytes ++ (lineAt (p.level c) c).toUTF8, none⟩⟩, .accepted) :=
  step_of_written hfits (Sink.write_of_unlimited h _)

/-- **A run leaves its lines**, and every callback is accepted, where there is room for everything
and a margin for each line. -/
theorem run_of_margins (h : p.sink.room = none) (hm : HasMargins p.direction p.depth cs) :
    p.run cs =
      (⟨p.direction, depthOf p.direction p.depth cs,
        ⟨p.sink.bytes ++ (String.join (lines p.direction p.depth cs)).toUTF8, none⟩⟩,
        List.replicate cs.length .accepted) := by
  induction cs generalizing p with
  | nil =>
    cases p with
    | mk d depth sink =>
      cases sink with
      | mk bytes room =>
        obtain rfl : room = none := h
        simp [run, depthOf, lines, levels]
  | cons c cs ih =>
    obtain ⟨hfits, hrest⟩ := hasMargins_cons.mp hm
    have hstep := step_of_unlimited h hfits
    have hgoes : (p.step c).2 ≠ .stopped := by simp [hstep]
    rw [run, runWith_cons hgoes, ← run, hstep]
    simp only
    rw [ih rfl hrest, lines_cons, String.join_cons, ByteArray.append_assoc]
    rfl

/-- **A run is stopped by a line without a margin**, and by nothing else, where there is room for
everything. -/
theorem stopped_notMem_run_iff (h : p.sink.room = none) :
    .stopped ∉ (p.run cs).2 ↔ HasMargins p.direction p.depth cs := by
  induction cs generalizing p with
  | nil => simp [run, HasMargins, levels]
  | cons c cs ih =>
    rw [run, stopped_notMem_cons_iff, step_ne_stopped_iff, hasMargins_cons]
    refine and_congr_right fun hfits => ?_
    rw [step_of_unlimited h hfits]
    exact ih rfl

/-- **The first line without a margin ends a run.** Nothing of it is written, and the printer
stands at its level. -/
theorem run_of_wide {i : Nat} (h : p.sink.room = none)
    (hm : HasMargins p.direction p.depth (cs.take i)) (hc : cs[i]? = some c)
    (hwide : widestMargin <
      2 * lineDepth p.direction (depthOf p.direction p.depth (cs.take i)) c.kind) :
    p.run cs =
      (⟨p.direction, lineDepth p.direction (depthOf p.direction p.depth (cs.take i)) c.kind,
        ⟨p.sink.bytes ++ (String.join ((lines p.direction p.depth cs).take i)).toUTF8, none⟩⟩,
        List.replicate i .accepted ++ [.stopped]) := by
  have hi : i < cs.length := (List.getElem?_eq_some_iff.mp hc).1
  have hbefore := run_of_margins h hm
  have hstep := step_of_lt (p := (p.run (cs.take i)).1) (c := c) (by rw [hbefore]; exact hwide)
  have hall : p.run cs = _ := runWith_of_stop ((stopped_notMem_run_iff h).mpr hm) hc
    (congrArg Prod.snd hstep)
  rw [hall, ← run, hstep, hbefore, lines_take, List.length_take, Nat.min_eq_left (Nat.le_of_lt hi)]
  rfl

/-! ### Runs from the start -/

theorem run_fresh_of_margins (h : HasMargins d 0 cs) :
    (fresh d .unlimited).run cs =
      (⟨d, depthOf d 0 cs, ⟨(String.join (lines d 0 cs)).toUTF8, none⟩⟩,
        List.replicate cs.length .accepted) := by
  have hempty : ByteArray.empty ++ (String.join (lines d 0 cs)).toUTF8 = _ := ByteArray.empty_append
  rw [← hempty]
  exact run_of_margins rfl h

theorem run_fresh_of_wide {i : Nat} (hm : HasMargins d 0 (cs.take i)) (hc : cs[i]? = some c)
    (hwide : widestMargin < 2 * lineDepth d (depthOf d 0 (cs.take i)) c.kind) :
    (fresh d .unlimited).run cs =
      (⟨d, lineDepth d (depthOf d 0 (cs.take i)) c.kind,
        ⟨(String.join ((lines d 0 cs).take i)).toUTF8, none⟩⟩,
        List.replicate i .accepted ++ [.stopped]) := by
  have hempty : ByteArray.empty ++ (String.join ((lines d 0 cs).take i)).toUTF8 = _ :=
    ByteArray.empty_append
  rw [← hempty]
  exact run_of_wide rfl hm hc hwide

/-- The printer after the first callbacks of a pass, printed where there is room for
everything. -/
def after (d : Direction) (cs : List Callback) : Printer :=
  ((fresh d .unlimited).run cs).1

theorem after_of_margins (h : HasMargins d 0 cs) :
    after d cs = ⟨d, depthOf d 0 cs, ⟨(String.join (lines d 0 cs)).toUTF8, none⟩⟩ :=
  congrArg Prod.fst (run_fresh_of_margins h)

/-! ### Regions inside each other -/

theorem levels_replicate (hc : c.kind = d.openKind) (depth n : Nat) :
    levels d depth (List.replicate n c) = List.range' depth n := by
  have hclose : c.kind ≠ d.closeKind := hc ▸ d.openKind_ne_closeKind
  induction n generalizing depth with
  | zero => rfl
  | succ n ih =>
    rw [List.replicate_succ, levels, depthAfter_eq, if_pos hc, lineDepth_eq, if_neg hclose, ih,
      List.range'_succ]

theorem depthOf_replicate (hc : c.kind = d.openKind) (depth n : Nat) :
    depthOf d depth (List.replicate n c) = depth + n := by
  induction n generalizing depth with
  | zero => rfl
  | succ n ih =>
    have hafter : depthAfter d depth c.kind = depth + 1 := by rw [depthAfter_eq, if_pos hc]
    rw [List.replicate_succ, depthOf, List.foldl_cons, hafter]
    refine (ih (depth + 1)).trans ?_
    omega

/-- **Regions nest at most 32768 deep** before there is no margin. -/
theorem hasMargins_nested_iff (hc : c.kind = d.openKind) :
    HasMargins d 0 (List.replicate n c) ↔ n ≤ 32768 := by
  simp only [HasMargins, levels_replicate hc, List.mem_range'_1, widestMargin]
  constructor
  · intro h
    by_contra hdeep
    -- a longer run has a line at level 32768
    have := h 32768 (by omega)
    omega
  · intro h level hlevel
    omega

/-- **Regions inside each other** are printed up to the first that is too deep, which stops the
program. -/
theorem run_nested (hc : c.kind = d.openKind) (hdeep : 32768 < n) :
    ((fresh d .unlimited).run (List.replicate n c)).2 =
        List.replicate 32768 .accepted ++ [.stopped] ∧
      (after d (List.replicate n c)).depth = 32768 := by
  have hclose : c.kind ≠ d.closeKind := hc ▸ d.openKind_ne_closeKind
  have htake : (List.replicate n c).take 32768 = List.replicate 32768 c := by
    rw [List.take_replicate, Nat.min_eq_left (Nat.le_of_lt hdeep)]
  have hget : (List.replicate n c)[32768]? = some c := by
    rw [List.getElem?_replicate, if_pos hdeep]
  have hlevel : lineDepth d (depthOf d 0 ((List.replicate n c).take 32768)) c.kind = 32768 := by
    rw [htake, depthOf_replicate hc, lineDepth_eq, if_neg hclose]
  have hmargins : HasMargins d 0 ((List.replicate n c).take 32768) := by
    rw [htake]
    exact (hasMargins_nested_iff hc).mpr (Nat.le_refl _)
  have hwide : widestMargin <
      2 * lineDepth d (depthOf d 0 ((List.replicate n c).take 32768)) c.kind := by
    rw [hlevel]
    decide
  rw [after, run_fresh_of_wide hmargins hget hwide]
  exact ⟨rfl, hlevel⟩

end ScanAudit.Printer
