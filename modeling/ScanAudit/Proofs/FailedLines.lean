import ScanAudit.Proofs.Depth
import ScanAudit.Proofs.Leaves
import ScanAudit.Proofs.LimitedPrinting

/-!
# The depth of a printer whose lines may fail

Room may run out in the middle of a line, and it may be given anew later, so that some lines
of a run fail and later ones are written again. Whether a line fails depends on its length,
hence on the depth, which in turn depends on the lines that failed before. None of this has
to be followed to know the depth. It is enough to look at how the callbacks were answered:
the depth is the peak of the events, where an opening event whose line was not written in full
counts for nothing and a closing event counts in any case (`ScanAudit.Printer.counted`).

The two are not treated alike because a closing event lowers the depth before its line is
written, which stands at the lower level, and an opening event raises it afterwards. One cue
moves the depth as it is counted (`ScanAudit.Printer.depth_perform`), and the rest is the
arithmetic of `ScanAudit.Depth.peak`.

A line without a margin is not written either, and so it counts as one that has failed. Only it is
the last of its run.
-/

namespace ScanAudit.Printer

variable {d : Direction} {p : Printer} {c : Callback}

/-! ### One callback -/

/-- **A line is written in full exactly when its callback is accepted.** -/
theorem step_eq_accepted_iff (p : Printer) (c : Callback) :
    (p.step c).2 = .accepted ↔
      (p.step c).1.sink.bytes = p.sink.bytes ++ (lineAt (p.level c) c).toUTF8 := by
  have hwrite := Sink.write_eq_ok_iff p.sink (lineAt (p.level c) c)
  obtain ⟨-, hstep⟩ | ⟨-, ⟨sink, hsink, hstep⟩ | ⟨sink, e, hsink, hstep⟩⟩ := p.step_cases c
  · -- nothing is written, and a line is not empty
    rw [hstep]
    refine iff_of_false (by simp) fun hbytes => ?_
    have hline : 0 < (lineAt (p.level c) c).toUTF8.size := utf8ByteSize_lineAt_pos _ c
    have hsize : p.sink.bytes.size = p.sink.bytes.size + (lineAt (p.level c) c).toUTF8.size :=
      (congrArg ByteArray.size hbytes).trans ByteArray.size_append
    omega
  · rw [hstep]
    rw [hsink] at hwrite
    exact iff_of_true rfl (hwrite.mp rfl)
  · rw [hstep]
    rw [hsink] at hwrite
    exact iff_of_false (by simp) fun hbytes => absurd (hwrite.mpr hbytes) (by simp)

/-- The depth after a callback whose line was written in full. -/
theorem depth_step_of_accepted (h : (p.step c).2 = .accepted) :
    (p.step c).1.depth = depthAfter p.direction p.depth c.kind := by
  obtain ⟨-, hstep⟩ | ⟨-, ⟨sink, -, hstep⟩ | ⟨sink, e, -, hstep⟩⟩ := p.step_cases c
  · rw [hstep] at h
    exact absurd h (by simp)
  · rw [hstep]
  · rw [hstep] at h
    exact absurd h (by simp)

/-- The depth after a callback whose line was not written in full. -/
theorem depth_step_of_not_accepted (h : (p.step c).2 ≠ .accepted) :
    (p.step c).1.depth = p.level c := by
  obtain ⟨-, hstep⟩ | ⟨-, ⟨sink, -, hstep⟩ | ⟨sink, e, -, hstep⟩⟩ := p.step_cases c
  · rw [hstep]
  · rw [hstep] at h
    exact absurd rfl h
  · rw [hstep]

/-- **An opening event raises the depth** when its line was written in full, and not
otherwise. -/
theorem depth_step_of_opens (hc : c.kind = p.direction.openKind) :
    ((p.step c).2 = .accepted → (p.step c).1.depth = p.depth + 1) ∧
      ((p.step c).2 ≠ .accepted → (p.step c).1.depth = p.depth) := by
  have hk : c.kind ≠ p.direction.closeKind := hc ▸ p.direction.openKind_ne_closeKind
  constructor
  · intro h
    rw [depth_step_of_accepted h, depthAfter_eq, if_pos hc]
  · intro h
    rw [depth_step_of_not_accepted h, level, lineDepth_eq, if_neg hk]

/-- **Other events** take the depth to the level of their line, written or not. -/
theorem depth_step_of_not_opens (hc : c.kind ≠ p.direction.openKind) :
    (p.step c).1.depth = p.level c := by
  by_cases h : (p.step c).2 = .accepted
  · rw [depth_step_of_accepted h, depthAfter_eq, if_neg hc]
    rfl
  · exact depth_step_of_not_accepted h

/-- **A closing event lowers the depth** in any case, but not below zero, and what neither opens
nor closes a region leaves it. -/
theorem depth_step_of_others :
    (c.kind = p.direction.closeKind → ((p.step c).1.depth : ℤ) = max 0 ((p.depth : ℤ) - 1)) ∧
      (c.kind ≠ p.direction.openKind → c.kind ≠ p.direction.closeKind →
        (p.step c).1.depth = p.depth) := by
  refine ⟨fun hclose => ?_, fun hopen hclose => ?_⟩
  · have hopen : c.kind ≠ p.direction.openKind := hclose ▸ p.direction.openKind_ne_closeKind.symm
    rw [depth_step_of_not_opens hopen, level, lineDepth_eq, if_pos hclose]
    omega
  · rw [depth_step_of_not_opens hopen, level, lineDepth_eq, if_neg hclose]

/-! ### One cue -/

/-- **What a cue counts for** once it has been answered: an opening event counts when its line
was written in full, a closing event always, and new room never. -/
def counted (d : Direction) : Cue → Answer WriteError → Role
  | .call c, .accepted => d.role c.kind
  | .call c, _ => if d.role c.kind = .opens then .neutral else d.role c.kind
  | .allow _, _ => .neutral

theorem move_counted_of_accepted (d : Direction) (depth : Nat) (c : Callback) :
    Depth.move depth (counted d (.call c) .accepted) = depthAfter d depth c.kind :=
  (depthAfter_eq_move d depth c.kind).symm

/-- An opening event whose line has failed leaves the depth, as any event leaves the level of
its line. -/
theorem move_counted_of_not_accepted {answer : Answer WriteError} (h : answer ≠ .accepted)
    (d : Direction) (depth : Nat) (c : Callback) :
    Depth.move depth (counted d (.call c) answer) = lineDepth d depth c.kind := by
  have hcounted : counted d (.call c) answer =
      if d.role c.kind = .opens then .neutral else d.role c.kind := by
    cases answer with
    | accepted => exact absurd rfl h
    | refused e => rfl
    | stopped => rfl
  rw [hcounted, lineDepth]
  cases d.role c.kind <;> rfl

/-- **A cue moves the depth as it is counted.** -/
theorem depth_perform (p : Printer) (q : Cue) :
    (p.perform q).1.depth = Depth.move p.depth (counted p.direction q (p.perform q).2) := by
  cases q with
  | allow room => rfl
  | call c =>
    by_cases h : (p.step c).2 = .accepted
    · rw [perform, h, depth_step_of_accepted h, move_counted_of_accepted]
    · rw [perform, depth_step_of_not_accepted h, move_counted_of_not_accepted h]
      rfl

theorem direction_perform (p : Printer) (q : Cue) : (p.perform q).1.direction = p.direction := by
  cases q with
  | allow room => rfl
  | call c => exact direction_step p c

/-! ### Runs -/

/-- **A run of cues**, going on after failures up to a line without a margin. -/
def attend (p : Printer) (qs : List Cue) : Printer × List (Answer WriteError) :=
  runWith perform p qs

/-- A printer that hears its cues alone is a visitor of one leaf. -/
theorem run_leaf_printer (p : Printer) (qs : List Cue) :
    (Visitor.leaf (.printer p)).run qs = (.leaf (.printer (p.attend qs).1),
      (p.attend qs).2.map (Answer.map (Fault.leaf ∘ LeafFault.write))) := by
  refine runWith_of_step (f := fun p => Visitor.leaf (.printer p)) (fun p q => ?_) p qs
  cases q with
  | allow room => rfl
  | call c => exact Prod.ext rfl (Answer.map_map _ _ _)

theorem direction_attend (p : Printer) (qs : List Cue) : (p.attend qs).1.direction = p.direction :=
  runWith_keeps (P := fun p' => p'.direction = p.direction)
    (fun p' q h => (direction_perform p' q).trans h) rfl qs

/-- **A run moves the depth as its cues are counted**, one after the other, as far as they are
answered. -/
theorem depth_attend (p : Printer) (qs : List Cue) :
    (p.attend qs).1.depth =
      (qs.zipWith (counted p.direction) (p.attend qs).2).foldl Depth.move p.depth := by
  induction qs generalizing p with
  | nil => rfl
  | cons q qs ih =>
    by_cases h : (p.perform q).2 = .stopped
    · rw [attend, runWith_cons_of_stopped h, depth_perform, h, List.zipWith_cons_cons,
        List.zipWith_nil_right]
      rfl
    · -- the rest of the run starts with the printer that has taken in the first cue
      have hrest := ih (p.perform q).1
      rw [direction_perform, depth_perform] at hrest
      rw [attend, runWith_cons h, List.zipWith_cons_cons, List.foldl_cons]
      exact hrest

/-- The depth at any point of a run is the peak of what has been counted up to there. -/
theorem depth_attend_take (d : Direction) (sink : Sink) (qs : List Cue) (k : Nat) :
    ((fresh d sink).attend (qs.take k)).1.depth =
      Depth.peak ((qs.zipWith (counted d) ((fresh d sink).attend qs).2).take k) := by
  rw [depth_attend, attend, answers_take, ← List.take_zipWith]
  exact Depth.foldl_move_zero _

/-- **One more cue** that is answered: the answer is given in the state before it, and the state
after it is what the cue makes of that. -/
theorem attend_take_succ {qs : List Cue} {k : Nat} {q : Cue} (hq : qs[k]? = some q)
    (hk : k < (p.attend qs).2.length) :
    (p.attend (qs.take (k + 1))).1 = ((p.attend (qs.take k)).1.perform q).1 ∧
      (p.attend qs).2[k]? = some ((p.attend (qs.take k)).1.perform q).2 := by
  have hgoes := stopped_notMem_take hk
  exact ⟨congrArg Prod.fst (runWith_take_succ hgoes hq), getElem?_answers hgoes hq⟩

/-- **A stop is the last answer.** -/
theorem length_answers_of_stopped {qs : List Cue} {k : Nat}
    (h : (p.attend qs).2[k]? = some .stopped) : (p.attend qs).2.length = k + 1 := by
  obtain ⟨hk, -⟩ := List.getElem?_eq_some_iff.mp h
  by_contra hne
  have hmore : k + 1 < (p.attend qs).2.length := by omega
  have hgoes : .stopped ∉ (p.attend (qs.take (k + 1))).2 := stopped_notMem_take hmore
  rw [attend, answers_take] at hgoes
  refine hgoes (List.mem_of_getElem? (i := k) ?_)
  rw [List.getElem?_take_of_lt (Nat.lt_succ_self k)]
  exact h

/-- **The depth of a printer counts the lines that were written**, whichever of them fail. A
printer hears callbacks and is given new room between them, in any order, and goes on after
failures; only a line without a margin ends the run, and it is the last cue that is answered.

* After `k` cues its depth is the greatest excess, among the cues `j` to `k - 1` for all `j` up
  to `k`, of the opening events whose lines were written in full over the closing events,
  written or not.
* A callback is accepted exactly when its line was written in full, and it stops the program
  exactly when its line has no margin. An opening event raises the depth when it is accepted, and
  only then; a closing event lowers it in any case, and never below zero; no other event changes
  it, and neither does new room. -/
theorem depth_counts_written_lines (d : Direction) (sink : Sink) (qs : List Cue) :
    let answers := ((fresh d sink).attend qs).2
    let after k := ((fresh d sink).attend (qs.take k)).1
    let roles := qs.zipWith (counted d) answers
    (Visitor.leaf (.printer (fresh d sink))).run qs = (.leaf (.printer (after qs.length)),
      answers.map (Answer.map (Fault.leaf ∘ LeafFault.write))) ∧
    (.stopped ∉ answers → answers.length = qs.length) ∧
    (∀ k ≤ answers.length,
      IsGreatest {x : ℤ | ∃ j ≤ k, x = Depth.rise ((roles.take k).drop j)} (after k).depth) ∧
    (∀ k c answer, qs[k]? = some (.call c) → answers[k]? = some answer →
      (answer = .accepted ↔ (after (k + 1)).sink.bytes = (after k).sink.bytes ++
        (lineAt (lineDepth d (after k).depth c.kind) c).toUTF8) ∧
      (answer = .stopped ↔ widestMargin < 2 * lineDepth d (after k).depth c.kind) ∧
      (answer = .stopped → answers.length = k + 1) ∧
      (c.kind = d.openKind → (answer = .accepted → (after (k + 1)).depth = (after k).depth + 1) ∧
        (answer ≠ .accepted → (after (k + 1)).depth = (after k).depth)) ∧
      (c.kind = d.closeKind →
        ((after (k + 1)).depth : ℤ) = max 0 (((after k).depth : ℤ) - 1)) ∧
      (c.kind ≠ d.openKind → c.kind ≠ d.closeKind → (after (k + 1)).depth = (after k).depth)) ∧
    ∀ k room answer, qs[k]? = some (.allow room) → answers[k]? = some answer →
      answer = .accepted ∧ (after (k + 1)).depth = (after k).depth := by
  intro answers after roles
  refine ⟨?_, fun hgoes => length_answers hgoes, fun k hk => ?_, fun k c answer hc hanswer => ?_,
    fun k room answer hroom hanswer => ?_⟩
  · have hall : after qs.length = ((fresh d sink).attend qs).1 := by
      show ((fresh d sink).attend (qs.take qs.length)).1 = _
      rw [List.take_length]
    rw [hall]
    exact run_leaf_printer _ qs
  · -- every answer has its cue, so there is a role for each of the first `k` cues
    have hlength : k ≤ roles.length := by
      rw [List.length_zipWith]
      exact Nat.le_min.mpr ⟨Nat.le_trans hk (length_answers_le _ qs), hk⟩
    have hdepth : (after k).depth = Depth.peak (roles.take k) := depth_attend_take d sink qs k
    rw [hdepth]
    exact Depth.isGreatest_peak_take hlength
  · obtain ⟨hk, -⟩ := List.getElem?_eq_some_iff.mp hanswer
    obtain ⟨hnext, hat⟩ := attend_take_succ hc hk
    have hdirection : (after k).direction = d := direction_attend _ _
    obtain rfl : ((after k).step c).2 = answer := Option.some.inj (hat.symm.trans hanswer)
    have hafter : after (k + 1) = ((after k).step c).1 := hnext
    rw [hafter, ← hdirection]
    exact ⟨step_eq_accepted_iff _ c, step_eq_stopped_iff,
      fun hstop => length_answers_of_stopped (hanswer.trans (congrArg some hstop)),
      depth_step_of_opens, depth_step_of_others⟩
  · obtain ⟨hk, -⟩ := List.getElem?_eq_some_iff.mp hanswer
    obtain ⟨hnext, hat⟩ := attend_take_succ hroom hk
    have haccepted : .accepted = answer := Option.some.inj (hat.symm.trans hanswer)
    exact ⟨haccepted.symm, (congrArg Printer.depth hnext).trans rfl⟩

/-- Three opening events, the last of which is cut off and does not raise the depth, and a
closing event that lowers it although nothing of its line is written. -/
example :
    let qs : List Cue := [.call (.parallelEnd "4" "11"), .allow (some 40),
      .call (.parallelEnd "12" "15"), .call (.parallelEnd "13" "14"), .allow (some 0),
      .call (.parallelStart "13" "7")]
    (List.range 7).map (fun k => ((fresh .backward .unlimited).attend (qs.take k)).1.depth) =
      [0, 1, 1, 2, 2, 2, 1] := by decide

end ScanAudit.Printer
