import ScanAudit.Proofs.LimitedSink
import ScanAudit.Proofs.Margins

/-!
# Printing where room is limited

A printer goes on after a line that could not be written, and from there on its depth may be
another than with room for everything: an opening event whose line fails does not raise it.
So its later lines would not even stand at the right level. That does no harm, because they
are never seen: a failed line has filled the sink, and no later line is deeper than the failed
one, so that nothing stops the program any more (`ScanAudit.Printer.run_of_full`).

What is printed with room for everything are the lines before the first without a margin
(`ScanAudit.Printer.printed`). The sink of any other run is what writing these lines would make
of it, up to the first that fails (`ScanAudit.Printer.sink_run`). For the answers there are two
cases. Either all these lines fit, and then nothing tells the two runs apart, not even a stop
(`ScanAudit.Printer.answers_of_le`). Or they do not, and then the failure comes before the stop,
if there is one: the run goes on to its end (`ScanAudit.Printer.answers_of_lt`).
-/

namespace ScanAudit.Printer

variable {d : Direction} {p : Printer} {c : Callback} {cs : List Callback} {room depth : Nat}

/-! ### The lines that are printed -/

/-- **The lines that are printed** where there is room for everything: those before the first
without a margin. -/
def printed (d : Direction) (depth : Nat) : List Callback → List String
  | [] => []
  | c :: cs =>
    if widestMargin < 2 * lineDepth d depth c.kind then []
    else lineAt (lineDepth d depth c.kind) c :: printed d (depthAfter d depth c.kind) cs

theorem printed_cons_of_wide (h : widestMargin < 2 * lineDepth d depth c.kind)
    (cs : List Callback) : printed d depth (c :: cs) = [] :=
  if_pos h

theorem printed_cons_of_fits (h : 2 * lineDepth d depth c.kind ≤ widestMargin)
    (cs : List Callback) :
    printed d depth (c :: cs) =
      lineAt (lineDepth d depth c.kind) c :: printed d (depthAfter d depth c.kind) cs :=
  if_neg (Nat.not_lt.mpr h)

/-- Where there is a margin for every line, every line is printed. -/
theorem printed_of_margins (h : HasMargins d depth cs) : printed d depth cs = lines d depth cs := by
  induction cs generalizing depth with
  | nil => rfl
  | cons c cs ih =>
    obtain ⟨hfits, hrest⟩ := hasMargins_cons.mp h
    rw [printed_cons_of_fits hfits, ih hrest, lines_cons]

theorem printed_take (d : Direction) (depth : Nat) (cs : List Callback) (i : Nat) :
    printed d depth (cs.take i) = (printed d depth cs).take i := by
  induction cs generalizing depth i with
  | nil => simp [printed]
  | cons c cs ih =>
    cases i with
    | zero => rfl
    | succ i =>
      rcases Nat.lt_or_ge widestMargin (2 * lineDepth d depth c.kind) with hwide | hfits
      · rw [List.take_succ_cons, printed_cons_of_wide hwide, printed_cons_of_wide hwide,
          List.take_nil]
      · rw [List.take_succ_cons, printed_cons_of_fits hfits, printed_cons_of_fits hfits,
          List.take_succ_cons, ih]

/-- **The size of what is printed** where there is room for everything. -/
def printedSize (d : Direction) (depth : Nat) (cs : List Callback) : Nat :=
  (String.join (printed d depth cs)).utf8ByteSize

theorem printedSize_cons_of_fits (h : 2 * p.level c ≤ widestMargin) (cs : List Callback) :
    printedSize p.direction p.depth (c :: cs) = (lineAt (p.level c) c).utf8ByteSize +
      printedSize p.direction (depthAfter p.direction p.depth c.kind) cs := by
  rw [printedSize, printed_cons_of_fits h, String.join_cons, String.utf8ByteSize_append]
  rfl

/-- What is printed begins with what is printed for the first callbacks. -/
theorem exists_join_printed (d : Direction) (depth : Nat) (cs : List Callback) {i j : Nat}
    (hij : i ≤ j) :
    ∃ more, String.join (printed d depth (cs.take j)) =
      String.join (printed d depth (cs.take i)) ++ more := by
  have hsplit := List.take_append_drop i (printed d depth (cs.take j))
  rw [← printed_take, List.take_take, Nat.min_eq_left hij] at hsplit
  exact ⟨_, by rw [← hsplit, String.join_append]⟩

/-! ### Full sinks -/

/-- A line is never empty: at least its end is written. -/
theorem utf8ByteSize_lineAt_pos (depth : Nat) (c : Callback) :
    0 < (lineAt depth c).utf8ByteSize := by
  have hend : "\n".utf8ByteSize = 1 := by decide
  rw [lineAt, String.utf8ByteSize_append, hend]
  omega

theorem level_le_depth (p : Printer) (c : Callback) : p.level c ≤ p.depth := by
  rw [level, lineDepth_eq]
  split <;> omega

/-- **A printer with a full sink** prints nothing, and it goes no deeper. -/
theorem step_of_full (h : p.sink.Full) (hdepth : 2 * p.depth ≤ widestMargin) (c : Callback) :
    p.step c = (⟨p.direction, p.level c, p.sink⟩, .refused .diskFull) := by
  have hlevel := level_le_depth p c
  exact step_of_unwritten (by omega) (h.write (utf8ByteSize_lineAt_pos _ _))

/-- **A whole run on a full sink** fails callback by callback and prints nothing. Nothing stops
the program, since the depth that the run starts with has a margin. -/
theorem run_of_full (h : p.sink.Full) (hdepth : 2 * p.depth ≤ widestMargin) (cs : List Callback) :
    (p.run cs).1.sink = p.sink ∧
      (p.run cs).2 = List.replicate cs.length (.refused .diskFull) := by
  induction cs generalizing p with
  | nil => exact ⟨rfl, rfl⟩
  | cons c cs ih =>
    have hlevel := level_le_depth p c
    have hstep := step_of_full h hdepth c
    obtain ⟨hsink, hanswers⟩ := ih (p := ⟨p.direction, p.level c, p.sink⟩) h
      (show 2 * p.level c ≤ widestMargin by omega)
    rw [run, runWith_cons (by simp [hstep]), hstep]
    exact ⟨hsink, congrArg (.refused .diskFull :: ·) hanswers⟩

/-- **A line that cannot be written** is the last of which anything is seen. -/
theorem run_cons_of_unwritten (hfits : 2 * p.level c ≤ widestMargin) {sink : Sink} {e : WriteError}
    (hwrite : p.sink.write (lineAt (p.level c) c) = (sink, .error e)) (cs : List Callback) :
    (p.run (c :: cs)).1.sink = sink ∧
      (p.run (c :: cs)).2 = List.replicate (cs.length + 1) (.refused .diskFull) := by
  cases e
  have hstep := step_of_unwritten hfits hwrite
  obtain ⟨hsink, hanswers⟩ := run_of_full (p := ⟨p.direction, p.level c, sink⟩)
    (Sink.full_of_write_eq_error hwrite) hfits cs
  rw [run, runWith_cons (by simp [hstep]), hstep]
  exact ⟨hsink, congrArg (.refused .diskFull :: ·) hanswers⟩

/-- **A line that can be written** is followed by the rest of the run. -/
theorem run_cons_of_written (hfits : 2 * p.level c ≤ widestMargin) {sink : Sink}
    (hwrite : p.sink.write (lineAt (p.level c) c) = (sink, .ok ())) (cs : List Callback) :
    p.run (c :: cs) =
      let rest := run ⟨p.direction, depthAfter p.direction p.depth c.kind, sink⟩ cs
      (rest.1, .accepted :: rest.2) := by
  have hstep := step_of_written hfits hwrite
  rw [run, runWith_cons (by simp [hstep]), hstep]
  rfl

/-! ### A run and the lines that are printed -/

/-- **A run leaves in its sink what writing the printed lines would**, one after the other up to
the first that fails. -/
theorem sink_run (p : Printer) (cs : List Callback) :
    (p.run cs).1.sink = (p.sink.writeAll (printed p.direction p.depth cs)).1 := by
  induction cs generalizing p with
  | nil => rfl
  | cons c cs ih =>
    rcases Nat.lt_or_ge widestMargin (2 * p.level c) with hwide | hfits
    · have hstop : (p.step c).2 = .stopped := step_eq_stopped_iff.mpr hwide
      rw [run, runWith_cons_of_stopped hstop, step_of_lt hwide, printed_cons_of_wide hwide]
      rfl
    · rw [printed_cons_of_fits hfits, Sink.writeAll]
      rcases hwrite : p.sink.write (lineAt (lineDepth p.direction p.depth c.kind) c) with
        ⟨sink, e | ⟨⟩⟩
      · -- the other lines of the run are not these, but none of them is written
        exact (run_cons_of_unwritten hfits hwrite cs).1
      · rw [run_cons_of_written hfits hwrite]
        exact ih _

/-- **A run whose printed lines all fit is answered as with room for everything**, be it stopped or
not. -/
theorem answers_of_le {s t : Sink} (hs : s.room = some room) (ht : t.room = none)
    (hfit : printedSize d depth cs ≤ room) :
    (run ⟨d, depth, s⟩ cs).2 = (run ⟨d, depth, t⟩ cs).2 := by
  induction cs generalizing s t room depth with
  | nil => rfl
  | cons c cs ih =>
    let p : Printer := ⟨d, depth, s⟩
    let q : Printer := ⟨d, depth, t⟩
    rcases Nat.lt_or_ge widestMargin (2 * lineDepth d depth c.kind) with hwide | hfits
    · have hstop : (p.step c).2 = .stopped := step_eq_stopped_iff.mpr hwide
      have hstop' : (q.step c).2 = .stopped := step_eq_stopped_iff.mpr hwide
      rw [run, run, runWith_cons_of_stopped hstop, runWith_cons_of_stopped hstop']
    · have hsize := printedSize_cons_of_fits (p := p) hfits cs
      have hsplit : (lineAt (p.level c) c).utf8ByteSize +
          printedSize d (depthAfter d depth c.kind) cs ≤ room := hsize ▸ hfit
      have hwrite := Sink.write_of_le hs (Nat.le_trans (Nat.le_add_right _ _) hsplit)
      have hwrite' := Sink.write_of_unlimited ht (lineAt (q.level c) c)
      rw [run_cons_of_written (p := p) hfits hwrite, run_cons_of_written (p := q) hfits hwrite']
      refine congrArg (.accepted :: ·) (ih ?_ ?_ (Nat.le_sub_of_add_le' hsplit))
      · rfl
      · rfl

/-- **A run whose printed lines do not all fit goes on to its end.** A callback is accepted as long
as the lines up to its own fit. -/
theorem answers_of_lt (hroom : p.sink.room = some room)
    (hover : room < printedSize p.direction p.depth cs) :
    (p.run cs).2.length = cs.length ∧ ∀ i < cs.length, (p.run cs).2[i]? =
      if printedSize p.direction p.depth (cs.take (i + 1)) ≤ room then some .accepted
      else some (.refused .diskFull) := by
  induction cs generalizing p room with
  | nil => exact absurd hover (Nat.not_lt_zero room)
  | cons c cs ih =>
    rcases Nat.lt_or_ge widestMargin (2 * p.level c) with hwide | hfits
    · -- nothing is printed, and that fits
      rw [printedSize, printed_cons_of_wide hwide] at hover
      exact absurd hover (Nat.not_lt_zero room)
    · have hsize := printedSize_cons_of_fits hfits
      rcases Nat.lt_or_ge room (lineAt (p.level c) c).utf8ByteSize with hcut | hfit
      · rw [(run_cons_of_unwritten hfits (Sink.write_of_lt hroom hcut) cs).2]
        refine ⟨List.length_replicate, fun i hi => ?_⟩
        rw [List.take_succ_cons, hsize, if_neg (by omega)]
        exact List.getElem?_replicate_of_lt hi
      · rw [run_cons_of_written hfits (Sink.write_of_le hroom hfit)]
        rw [hsize] at hover
        have hrest : room - (lineAt (p.level c) c).utf8ByteSize <
            printedSize p.direction (depthAfter p.direction p.depth c.kind) cs := by omega
        obtain ⟨hlength, hanswers⟩ := ih (p := ⟨p.direction, depthAfter p.direction p.depth c.kind,
          ⟨_, some (room - (lineAt (p.level c) c).utf8ByteSize)⟩⟩) rfl hrest
        refine ⟨congrArg (· + 1) hlength, fun i hi => ?_⟩
        rw [List.take_succ_cons, hsize]
        cases i with
        | zero => exact (if_pos hfit).symm
        | succ i =>
          refine (hanswers i (Nat.lt_of_succ_lt_succ hi)).trans (if_congr ?_ rfl rfl)
          exact Nat.le_sub_iff_add_le' hfit

/-- Nothing is refused where there is room for everything. -/
theorem refused_notMem_run (h : p.sink.room = none) (cs : List Callback) (e : WriteError) :
    .refused e ∉ (p.run cs).2 := by
  by_cases hm : HasMargins p.direction p.depth cs
  · rw [run_of_margins h hm]
    simp
  · obtain ⟨i, c, hc, hbefore, hwide⟩ := exists_first_wide hm
    rw [run_of_wide h hbefore hc hwide]
    simp

/-! ### A run that is cut off -/

/-- The printer after the first callbacks of a pass, printed where there is room for `room`
bytes. -/
def cutOff (d : Direction) (room : Nat) (cs : List Callback) : Printer :=
  ((fresh d (.withRoom (some room))).run cs).1

theorem bytes_after (d : Direction) (cs : List Callback) :
    (after d cs).sink.bytes = (String.join (printed d 0 cs)).toUTF8 := by
  rw [after, sink_run, Sink.writeAll_of_unlimited rfl]
  exact ByteArray.empty_append

theorem size_after (d : Direction) (cs : List Callback) :
    (after d cs).sink.bytes.size = printedSize d 0 cs := by
  rw [bytes_after]
  rfl

/-- **A run that is cut off leaves the first bytes** of the run that is not. -/
theorem sink_cutOff (d : Direction) (room : Nat) (cs : List Callback) :
    (cutOff d room cs).sink =
      ⟨(after d cs).sink.bytes.extract 0 room, some (room - (after d cs).sink.bytes.size)⟩ := by
  rw [cutOff, sink_run, Sink.writeAll_of_room rfl, bytes_after]
  exact congrArg (Sink.mk · _) ByteArray.empty_append

/-- The first callbacks print no more than all of them. -/
theorem printedSize_take_le (d : Direction) (cs : List Callback) {i j : Nat} (hij : i ≤ j) :
    printedSize d 0 (cs.take i) ≤ printedSize d 0 (cs.take j) := by
  obtain ⟨more, hmore⟩ := exists_join_printed d 0 cs hij
  rw [printedSize, printedSize, hmore, String.utf8ByteSize_append]
  exact Nat.le_add_right _ _

/-- **From the first byte on for which there is no room**, the sink of a run that is cut off stays
as it is. -/
theorem sink_cutOff_eq {i j : Nat} (hij : i ≤ j) (hover : room < printedSize d 0 (cs.take i)) :
    (cutOff d room (cs.take j)).sink = (cutOff d room (cs.take i)).sink := by
  obtain ⟨more, hmore⟩ := exists_join_printed d 0 cs hij
  have hover' := Nat.lt_of_lt_of_le hover (printedSize_take_le d cs hij)
  have hbytes : (String.join (printed d 0 (cs.take j))).toUTF8 =
      (String.join (printed d 0 (cs.take i))).toUTF8 ++ more.toUTF8 := by
    rw [hmore]
    rfl
  have hnone : room - (String.join (printed d 0 (cs.take i))).toUTF8.size = 0 :=
    Nat.sub_eq_zero_of_le (Nat.le_of_lt hover)
  rw [sink_cutOff, sink_cutOff, size_after, size_after, bytes_after, bytes_after, hbytes,
    Sink.extract_append, hnone, Sink.extract_zero, ByteArray.append_empty,
    Nat.sub_eq_zero_of_le (Nat.le_of_lt hover), Nat.sub_eq_zero_of_le (Nat.le_of_lt hover')]

/-- The answers to a pass, printed where there is room for `room` bytes. -/
def answersWithin (d : Direction) (room : Nat) (cs : List Callback) : List (Answer WriteError) :=
  ((fresh d (.withRoom (some room))).run cs).2

/-- **What tells the two runs apart**: whether there is room for everything that the unlimited one
prints. -/
theorem answersWithin_cases (d : Direction) (room : Nat) (cs : List Callback) :
    printedSize d 0 cs ≤ room ∧ answersWithin d room cs = ((fresh d .unlimited).run cs).2 ∨
      room < printedSize d 0 cs ∧ (answersWithin d room cs).length = cs.length ∧
        ∀ i < cs.length, (answersWithin d room cs)[i]? =
          if printedSize d 0 (cs.take (i + 1)) ≤ room then some .accepted
          else some (.refused .diskFull) := by
  rcases Nat.lt_or_ge room (printedSize d 0 cs) with hover | hfit
  · exact Or.inr ⟨hover, answers_of_lt (p := fresh d (.withRoom (some room))) rfl hover⟩
  · exact Or.inl ⟨hfit, answers_of_le rfl rfl hfit⟩

/-- **A run that is stopped has had room for everything before the stop.** -/
theorem fits_of_stopped_mem (h : .stopped ∈ answersWithin d room cs) :
    printedSize d 0 cs ≤ room ∧ answersWithin d room cs = ((fresh d .unlimited).run cs).2 := by
  obtain hsame | ⟨-, hlength, hanswers⟩ := answersWithin_cases d room cs
  · exact hsame
  · obtain ⟨i, hi⟩ := List.mem_iff_getElem?.mp h
    have hlt : i < cs.length := hlength ▸ (List.getElem?_eq_some_iff.mp hi).1
    rw [hanswers i hlt] at hi
    split at hi <;> exact absurd hi (by simp)

theorem stopped_mem_answersWithin_iff :
    .stopped ∈ answersWithin d room cs ↔
      .stopped ∈ ((fresh d .unlimited).run cs).2 ∧ printedSize d 0 cs ≤ room := by
  constructor
  · intro h
    obtain ⟨hfit, hsame⟩ := fits_of_stopped_mem h
    exact ⟨hsame ▸ h, hfit⟩
  · rintro ⟨h, hfit⟩
    obtain ⟨-, hsame⟩ | ⟨hover, -⟩ := answersWithin_cases d room cs
    · exact hsame ▸ h
    · exact absurd hfit (Nat.not_le.mpr hover)

/-- Where nothing is stopped and there is room for everything, every callback is accepted. -/
theorem answers_of_not_stopped (h : .stopped ∉ ((fresh d .unlimited).run cs).2) :
    ((fresh d .unlimited).run cs).2 = List.replicate cs.length .accepted :=
  congrArg Prod.snd (run_fresh_of_margins ((stopped_notMem_run_iff rfl).mp h))

/-- **A callback of a run that is not stopped is accepted as long as everything printed up to it
fits.** -/
theorem getElem?_answersWithin (h : .stopped ∉ answersWithin d room cs) {i : Nat}
    (hi : i < cs.length) :
    (answersWithin d room cs)[i]? =
      if printedSize d 0 (cs.take (i + 1)) ≤ room then some .accepted
      else some (.refused .diskFull) := by
  obtain ⟨hfit, hsame⟩ | ⟨-, -, hanswers⟩ := answersWithin_cases d room cs
  · have hprefix := printedSize_take_le d cs (Nat.succ_le_of_lt hi)
    rw [List.take_length] at hprefix
    rw [hsame, answers_of_not_stopped (hsame ▸ h), if_pos (Nat.le_trans hprefix hfit)]
    exact List.getElem?_replicate_of_lt hi
  · exact hanswers i hi

/-- **Only where room runs out is a callback refused**, and such a run is not stopped. -/
theorem lt_of_refused {i : Nat} {e : WriteError}
    (h : (answersWithin d room cs)[i]? = some (.refused e)) :
    room < printedSize d 0 (cs.take (i + 1)) ∧ .stopped ∉ answersWithin d room cs := by
  obtain ⟨-, hsame⟩ | ⟨hover, hlength, hanswers⟩ := answersWithin_cases d room cs
  · exact absurd (List.mem_of_getElem? (hsame ▸ h)) (refused_notMem_run rfl cs e)
  · have hi : i < cs.length := hlength ▸ (List.getElem?_eq_some_iff.mp h).1
    refine ⟨?_, fun hstop => absurd (fits_of_stopped_mem hstop).1 (Nat.not_le.mpr hover)⟩
    rw [hanswers i hi] at h
    by_contra hfit
    rw [if_pos (Nat.le_of_not_lt hfit)] at h
    exact absurd h (by simp)

/-- **After a failure nothing is printed**, and every callback fails. -/
theorem silent_of_refused {i j : Nat} {e : WriteError}
    (h : (answersWithin d room cs)[i]? = some (.refused e)) (hij : i < j) (hj : j < cs.length) :
    (answersWithin d room cs)[j]? = some (.refused .diskFull) ∧
      (cutOff d room (cs.take (j + 1))).sink = (cutOff d room (cs.take j)).sink := by
  obtain ⟨hover, hgoes⟩ := lt_of_refused h
  have hlater := Nat.lt_of_lt_of_le hover (printedSize_take_le d cs (Nat.le_succ_of_le hij))
  refine ⟨by rw [getElem?_answersWithin hgoes hj, if_neg (Nat.not_le.mpr hlater)], ?_⟩
  rw [sink_cutOff_eq (Nat.succ_le_of_lt hij) hover,
    sink_cutOff_eq (Nat.le_succ_of_le (Nat.succ_le_of_lt hij)) hover]

/-- **A sink that runs out of room only cuts off the printed text.** A pass is printed twice,
where there is room for everything and where there is room for so many bytes; the callbacks
may carry any ids, and the printer goes on after failures. In how many pieces a text is
written does not matter.

* The text of the second run is the beginning of the text of the first, as long as there is
  room, be it cut inside a line or inside a character.
* The second run is stopped by a line without a margin only where the first is, and only if there
  is room for everything that is printed before it. Then all answers are the same.
* Else the second run comes to its end, and a callback is accepted exactly when the lines up to its
  own, as the first run prints them, fit together.
* Once a callback has failed, every later one fails and nothing is printed for it. Nothing stops
  the program any more, although the printer may stand at another depth than in the first run. -/
theorem cut_off_by_room (d : Direction) (room : Nat) (cs : List Callback) :
    let whole := (fresh d .unlimited).run cs
    let cut := (fresh d (.withRoom (some room))).run cs
    let size i := (after d (cs.take i)).sink.bytes.size
    (∀ (sink : Sink) (pieces : List String),
      sink.writeAll pieces = sink.write (String.join pieces)) ∧
    (.stopped ∉ whole.2 → whole.2 = List.replicate cs.length .accepted ∧ ∀ i,
      (after d (cs.take i)).sink.bytes = (String.join ((lines d 0 cs).take i)).toUTF8) ∧
    cut.1.sink.bytes = whole.1.sink.bytes.extract 0 room ∧
    cut.1.sink.bytes.size = min room whole.1.sink.bytes.size ∧
    (.stopped ∈ cut.2 ↔ .stopped ∈ whole.2 ∧ whole.1.sink.bytes.size ≤ room) ∧
    (.stopped ∈ cut.2 → cut.2 = whole.2) ∧
    (.stopped ∉ cut.2 → cut.2.length = cs.length ∧ ∀ i < cs.length,
      cut.2[i]? = if size (i + 1) ≤ room then some .accepted else some (.refused .diskFull)) ∧
    ∀ i e, cut.2[i]? = some (.refused e) → .stopped ∉ cut.2 ∧ ∀ j, i < j → j < cs.length →
      cut.2[j]? = some (.refused .diskFull) ∧
      (cutOff d room (cs.take (j + 1))).sink = (cutOff d room (cs.take j)).sink := by
  intro whole cut size
  have hsize (i : Nat) : size i = printedSize d 0 (cs.take i) := size_after d _
  have hwhole : whole.1.sink.bytes.size = printedSize d 0 cs := size_after d cs
  have hsink : cut.1.sink = ⟨whole.1.sink.bytes.extract 0 room, _⟩ := sink_cutOff d room cs
  refine ⟨Sink.writeAll_eq_write, fun hgoes => ⟨answers_of_not_stopped hgoes, fun i => ?_⟩,
    by rw [hsink], ?_, ?_, fun hstop => (fits_of_stopped_mem hstop).2,
    fun hgoes => ⟨length_answers hgoes, fun i hi => ?_⟩, fun i e hrefused => ?_⟩
  · have hm : HasMargins d 0 cs := (stopped_notMem_run_iff rfl).mp hgoes
    rw [bytes_after, printed_take, printed_of_margins hm]
  · rw [hsink, ByteArray.size_extract, Nat.sub_zero]
  · rw [hwhole]
    exact stopped_mem_answersWithin_iff
  · rw [hsize]
    exact getElem?_answersWithin hgoes hi
  · exact ⟨(lt_of_refused hrefused).2, fun j hij hj => silent_of_refused hrefused hij hj⟩

/-- **A run can be stopped although everything up to there fits**: the 32769th of the regions
inside each other has no margin, and with just the room that the others take, it is the first
callback that is not accepted. -/
theorem stopped_with_room :
    let cs := List.replicate 32769 (.parallelEnd "1" "2")
    let room := (after .backward cs).sink.bytes.size
    (after .backward (cs.take 32769)).sink.bytes.size ≤ room ∧
      ((fresh .backward (.withRoom (some room))).run cs).2[32768]? = some .stopped := by
  intro cs room
  have hall : cs.take 32769 = cs := List.take_of_length_le (Nat.le_of_eq List.length_replicate)
  have hanswers : ((fresh .backward (.withRoom (some room))).run cs).2 =
      ((fresh .backward .unlimited).run cs).2 :=
    answers_of_le rfl rfl (Nat.le_of_eq (size_after .backward cs).symm)
  refine ⟨Nat.le_of_eq (by rw [hall]), ?_⟩
  rw [hanswers, (run_nested rfl (by decide)).1,
    List.getElem?_append_right (Nat.le_of_eq List.length_replicate), List.length_replicate]
  rfl

/-- **A failed opening event** does not raise the depth, so the two runs part there. -/
example : (cutOff .backward 0 [.parallelEnd "4" "11"]).depth = 0 ∧
    (after .backward [.parallelEnd "4" "11"]).depth = 1 := by decide

end ScanAudit.Printer
