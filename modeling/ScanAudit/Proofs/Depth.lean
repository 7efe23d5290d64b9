import Mathlib.Data.Int.Notation
import Mathlib.Data.List.Induction
import Mathlib.Order.Bounds.Defs
import ScanAudit.Proofs.Margins

/-!
# The depth of a printer, by counting

A printer moves its depth up and down with every event, and at zero it does not go down. So
the depth cannot be had by counting all events: closing events that found nothing open are
lost. What counts is the last stretch of the run that loses none, and that is the one that
rises highest. The depth is the **peak** of the run (`ScanAudit.Depth.peak`): the greatest
excess of opening events over closing events in a stretch that ends where the run ends
(`ScanAudit.Depth.isGreatest_peak`). The empty stretch is one of them, and so a peak is never
below zero.

One more event takes the peak one up or one down or leaves it, and it stops at zero
(`ScanAudit.Depth.peak_concat`); this is the step of the printer. The induction goes along
the run from its first event, where each event that comes before the others adds one stretch
to be compared.

The levels of all lines follow, and with them the printed text and how deep a run may go
(`ScanAudit.Printer.text_by_peaks`). A margin is two blanks for each level and cannot be wider
than `ScanAudit.Printer.widestMargin`, so the line at level 32768 stops the program
(`ScanAudit.Printer.stopped_by_nested_regions`).
-/

namespace ScanAudit

/-! ### Rises and peaks -/

namespace Depth

/-- **The move of a depth** at an event: up, down but not below zero, or not at all. -/
def move (depth : Nat) : Role → Nat
  | .opens => depth + 1
  | .closes => depth - 1
  | .neutral => depth

/-- **The rise of a stretch of events**: the opening ones less the closing ones. -/
def rise (roles : List Role) : ℤ :=
  roles.count .opens - roles.count .closes

/-- **The peak of a run of events**: the highest rise of a stretch that ends where the run
ends, the empty one included. -/
def peak : List Role → Nat
  | [] => 0
  | r :: rest => max (rise (r :: rest)).toNat (peak rest)

theorem rise_concat_opens (roles : List Role) : rise (roles ++ [.opens]) = rise roles + 1 := by
  simp [rise]
  omega

theorem rise_concat_closes (roles : List Role) : rise (roles ++ [.closes]) = rise roles - 1 := by
  simp [rise]
  omega

theorem rise_concat_neutral (roles : List Role) : rise (roles ++ [.neutral]) = rise roles := by
  simp [rise]

/-- **The peak is the greatest rise** of all stretches that end where the run ends. -/
theorem isGreatest_peak (roles : List Role) :
    IsGreatest {x : ℤ | ∃ j ≤ roles.length, x = rise (roles.drop j)} (peak roles) := by
  induction roles with
  | nil =>
    refine ⟨⟨0, Nat.le_refl 0, rfl⟩, ?_⟩
    rintro x ⟨j, -, rfl⟩
    simp [rise, peak]
  | cons r rest ih =>
    obtain ⟨⟨j, hj, hpeak⟩, hupper⟩ := ih
    constructor
    · rcases Nat.lt_or_ge (peak rest) (rise (r :: rest)).toNat with hlt | hle
      · -- the whole run rises highest, and above zero
        refine ⟨0, Nat.zero_le _, ?_⟩
        rw [peak, Nat.max_eq_left (Nat.le_of_lt hlt), List.drop_zero]
        omega
      · refine ⟨j + 1, Nat.succ_le_succ hj, ?_⟩
        rw [peak, Nat.max_eq_right hle, List.drop_succ_cons, hpeak]
    · rintro x ⟨i, hi, rfl⟩
      have hmax : (peak (r :: rest) : ℤ) = max ((rise (r :: rest)).toNat : ℤ) (peak rest) := by
        rw [peak]
        omega
      cases i with
      | zero =>
        rw [List.drop_zero, hmax]
        omega
      | succ i =>
        have hle : rise (rest.drop i) ≤ peak rest := hupper ⟨i, Nat.le_of_succ_le_succ hi, rfl⟩
        rw [List.drop_succ_cons, hmax]
        omega

/-- The peak of the beginning of a run: the greatest rise of the events `j` to `k - 1`. -/
theorem isGreatest_peak_take {roles : List Role} {k : Nat} (hk : k ≤ roles.length) :
    IsGreatest {x : ℤ | ∃ j ≤ k, x = rise ((roles.take k).drop j)} (peak (roles.take k)) := by
  have hgreatest := isGreatest_peak (roles.take k)
  rwa [List.length_take, Nat.min_eq_left hk] at hgreatest

/-- **One more event moves the peak** as it moves a depth. -/
theorem peak_concat (roles : List Role) (r : Role) : peak (roles ++ [r]) = move (peak roles) r := by
  induction roles with
  | nil => cases r <;> decide
  | cons first rest ih =>
    -- of the stretches that the new event ends, only the whole run is not one of `rest`
    rw [List.cons_append, peak, ← List.cons_append, ih, peak]
    cases r with
    | opens =>
      rw [rise_concat_opens, move, move]
      omega
    | closes =>
      rw [rise_concat_closes, move, move]
      omega
    | neutral => rw [rise_concat_neutral, move, move]

/-- **A depth that starts at zero is the peak** of the events it has moved with. -/
theorem foldl_move_zero (roles : List Role) : roles.foldl move 0 = peak roles := by
  induction roles using List.reverseRecOn with
  | nil => rfl
  | append_singleton roles r ih => rw [List.foldl_concat, ih, peak_concat]

end Depth

/-! ### The levels of a run -/

namespace Printer

variable {d : Direction} {c : Callback} {cs : List Callback} {i k : Nat}

/-- **The roles of callbacks** in a scan of the given direction. -/
def roles (d : Direction) (cs : List Callback) : List Role :=
  cs.map fun c => d.role c.kind

theorem depthAfter_eq_move (d : Direction) (depth : Nat) (k : Kind) :
    depthAfter d depth k = Depth.move depth (d.role k) := by
  cases d <;> cases k <;> rfl

/-- **The depth that a run leads to is its peak.** -/
theorem depthOf_zero_eq_peak (d : Direction) (cs : List Callback) :
    depthOf d 0 cs = Depth.peak (roles d cs) := by
  have hmove : (fun depth (c : Callback) => depthAfter d depth c.kind) =
      fun depth c => Depth.move depth (d.role c.kind) := by
    funext depth c
    exact depthAfter_eq_move d depth c.kind
  rw [depthOf, hmove, ← Depth.foldl_move_zero, roles, List.foldl_map]

/-- **The level of a line by counting**: the peak of the events before it, and for a closing
event the peak that this event leads to. -/
def levelOf (d : Direction) (cs : List Callback) (i : Nat) (c : Callback) : Nat :=
  if c.kind = d.closeKind then Depth.peak ((roles d cs).take (i + 1))
  else Depth.peak ((roles d cs).take i)

theorem lineDepth_eq_levelOf (hc : cs[i]? = some c) :
    lineDepth d (depthOf d 0 (cs.take i)) c.kind = levelOf d cs i c := by
  have hroles : (roles d cs).take (i + 1) = (roles d cs).take i ++ [d.role c.kind] := by
    rw [List.take_add_one, roles, List.getElem?_map, hc]
    rfl
  have hbefore : roles d (cs.take i) = (roles d cs).take i := List.map_take
  rw [depthOf_zero_eq_peak, hbefore, lineDepth_eq, levelOf, hroles, Depth.peak_concat]
  by_cases hk : c.kind = d.closeKind
  · rw [if_pos hk, if_pos hk, Direction.role_eq_closes_iff.mpr hk, Depth.move]
  · rw [if_neg hk, if_neg hk]

/-- The lines of a run, each at the level that is counted for it. -/
theorem lines_zero_eq (d : Direction) (cs : List Callback) :
    lines d 0 cs = cs.mapIdx fun i c => lineAt (levelOf d cs i c) c := by
  refine List.ext_getElem? fun i => ?_
  rw [lines, List.getElem?_zipWith, getElem?_levels, List.getElem?_mapIdx]
  rcases hc : cs[i]? with _ | c
  · rfl
  · simp only [Option.map_some, lineDepth_eq_levelOf hc]

/-- The margins of the first lines, each at the level that is counted for it. -/
theorem hasMargins_take_iff (hk : k ≤ cs.length) :
    HasMargins d 0 (cs.take k) ↔
      ∀ i c, i < k → cs[i]? = some c → 2 * levelOf d cs i c ≤ widestMargin := by
  rw [hasMargins_iff]
  refine forall₂_congr fun i c => ?_
  constructor
  · intro h hi hc
    have hlevel := h (by rw [List.getElem?_take_of_lt hi, hc])
    rwa [List.take_take, Nat.min_eq_left (Nat.le_of_lt hi), lineDepth_eq_levelOf hc] at hlevel
  · intro h hc
    obtain ⟨hi, -⟩ := List.getElem?_eq_some_iff.mp hc
    rw [List.length_take, Nat.min_eq_left hk] at hi
    rw [List.getElem?_take_of_lt hi] at hc
    rw [List.take_take, Nat.min_eq_left (Nat.le_of_lt hi), lineDepth_eq_levelOf hc]
    exact h hi hc

/-! ### Whole runs -/

/-- **The printed text is one line for each callback**, with its margin known by counting.
After `k` callbacks the depth is the greatest excess of opening over closing events among the
callbacks `j` to `k - 1`, for all `j` up to `k`. The line of a callback stands at the depth
before it, that of a closing event at the depth after it. It has two blanks for each level,
the tag of its kind, the ids as they arrived, and a line feed.

All this holds as far as there is a margin for each of these levels, and up to there every
callback is accepted. The first line without a margin stops the program. -/
theorem text_by_peaks (d : Direction) (cs : List Callback) :
    let depth k := Depth.peak ((roles d cs).take k)
    let level i (c : Callback) := if c.kind = d.closeKind then depth (i + 1) else depth i
    let text := cs.mapIdx fun i c => Layout.blanks (2 * level i c) ++ c.line ++ "\n"
    let fits k := ∀ i c, i < k → cs[i]? = some c → 2 * level i c ≤ widestMargin
    (∀ k ≤ cs.length,
      IsGreatest {x : ℤ | ∃ j ≤ k, x = Depth.rise (((roles d cs).take k).drop j)} (depth k)) ∧
    (.stopped ∉ ((fresh d .unlimited).run cs).2 ↔ fits cs.length) ∧
    (∀ k ≤ cs.length, fits k → (fresh d .unlimited).run (cs.take k) =
      (⟨d, depth k, ⟨(String.join (text.take k)).toUTF8, none⟩⟩, List.replicate k .accepted)) ∧
    ∀ k c, cs[k]? = some c → fits k → widestMargin < 2 * level k c →
      (fresh d .unlimited).run cs =
        (⟨d, level k c, ⟨(String.join (text.take k)).toUTF8, none⟩⟩,
          List.replicate k .accepted ++ [.stopped]) := by
  intro depth level text fits
  have htext : text = lines d 0 cs := (lines_zero_eq d cs).symm
  refine ⟨fun k hk => Depth.isGreatest_peak_take (by simpa [roles] using hk), ?_,
    fun k hk hfits => ?_, fun k c hc hfits hwide => ?_⟩
  · have hall := hasMargins_take_iff (d := d) (Nat.le_refl cs.length)
    rw [List.take_length] at hall
    exact (stopped_notMem_run_iff rfl).trans hall
  · have hm : HasMargins d 0 (cs.take k) := (hasMargins_take_iff hk).mpr hfits
    have hdepth : depthOf d 0 (cs.take k) = depth k := by
      rw [depthOf_zero_eq_peak, roles, List.map_take]
      rfl
    have hlength : (cs.take k).length = k := by rw [List.length_take, Nat.min_eq_left hk]
    rw [run_fresh_of_margins hm, hdepth, hlength, lines_take, ← htext]
  · have hk := Nat.le_of_lt (List.getElem?_eq_some_iff.mp hc).1
    have hm : HasMargins d 0 (cs.take k) := (hasMargins_take_iff hk).mpr hfits
    have hlevel : lineDepth d (depthOf d 0 (cs.take k)) c.kind = level k c :=
      lineDepth_eq_levelOf hc
    rw [run_fresh_of_wide hm hc (hlevel ▸ hwide), hlevel, ← htext]

/-- **The printer stops the program where regions nest too deep.** Of 32769 regions inside each
other, the first 32768 are printed, and the line of the last one has no margin. -/
theorem stopped_by_nested_regions :
    ((fresh .backward .unlimited).run (List.replicate 32768 (.parallelEnd "1" "2"))).2 =
        List.replicate 32768 .accepted ∧
      ((fresh .backward .unlimited).run (List.replicate 32769 (.parallelEnd "1" "2"))).2 =
        List.replicate 32768 .accepted ++ [.stopped] := by
  have hopens : (Callback.parallelEnd "1" "2").kind = Direction.backward.openKind := rfl
  have hm : HasMargins .backward 0 (List.replicate 32768 (.parallelEnd "1" "2")) :=
    (hasMargins_nested_iff hopens).mpr (Nat.le_refl _)
  refine ⟨?_, (run_nested hopens (by decide)).1⟩
  rw [run_fresh_of_margins hm, List.length_replicate]

end Printer

end ScanAudit
