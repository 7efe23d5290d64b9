import ScanAudit.Pass
import ScanAudit.Proofs.Margins
import ScanAudit.Proofs.PrintedLine
import ScanAudit.Proofs.RecorderRun

/-!
# What a printed and recorded pass leaves behind

A pass hears its callbacks up to the first malformed one, which it still prints. So there is
one line for each callback that was heard, and one record for each of them but the refused
one. This is so as long as there is a margin for each of these lines; a pass whose printer
finds none is lost there, with the lines and the records of the callbacks before
(`ScanAudit.Pass.exists_of_replay_fresh_stopped`).

The text of a pass without a fault is as good as its log: it has one line for each record, a
line shows the ids of its callback, and such a line tells the record they make. The margins
and the direction of the scan need not be known for this.
-/

namespace ScanAudit

namespace Printer

/-! ### Lines that tell records -/

theorem toList_lineAt (depth : Nat) (c : Callback) :
    (lineAt depth c).toList = List.replicate (2 * depth) ' ' ++ c.line.toList ++ ['\n'] := by
  simp [lineAt, Layout.toList_blanks]

/-- **The margin can be told from what stands after it**, since that begins with a bracket. -/
theorem lineAt_inj {depth depth' : Nat} {c c' : Callback} (h : lineAt depth c = lineAt depth' c') :
    c.line = c'.line := by
  have hmargin (n : Nat) : '[' ∉ List.replicate n ' ' := fun hmem =>
    absurd (List.eq_of_mem_replicate hmem) (by decide)
  obtain ⟨rest, hrest⟩ := c.exists_toList_line
  obtain ⟨rest', hrest'⟩ := c'.exists_toList_line
  have hchars := congrArg String.toList h
  rw [toList_lineAt, toList_lineAt, hrest, hrest', List.append_assoc, List.append_assoc] at hchars
  have hline := (Delimited.append_cons_inj (hmargin _) (hmargin _) hchars).2
  rw [← String.toList_inj, hrest, hrest', List.append_cancel_right hline]

theorem isLine_lineAt {depth : Nat} {c : Callback} {r : Record} (h : r.ToldBy c.line) :
    Delimited.IsLine (lineAt depth c) := by
  refine ⟨List.replicate (2 * depth) ' ' ++ c.line.toList, ?_, toList_lineAt depth c⟩
  rw [List.mem_append, not_or]
  exact ⟨fun hmem => absurd (List.eq_of_mem_replicate hmem) (by decide), h.lineFeed_notMem⟩

theorem isLine_of_mem_lines {d : Direction} {depth : Nat} {cs : List Callback}
    {records : List Record} (h : List.Forall₂ Callback.Reported cs records) :
    ∀ line ∈ lines d depth cs, Delimited.IsLine line := by
  induction h generalizing depth with
  | nil => simp [lines]
  | cons hr _ ih =>
    rw [lines_cons, List.forall_mem_cons]
    exact ⟨isLine_lineAt hr.toldBy_line, ih⟩

/-- There is one line feed for each line, and one line for each record. -/
theorem count_lineFeed_lines {d : Direction} {depth : Nat} {cs : List Callback}
    {records : List Record} (h : List.Forall₂ Callback.Reported cs records) :
    (String.join (lines d depth cs)).toList.count '\n' = records.length := by
  rw [Delimited.count_lineFeed_join (isLine_of_mem_lines h), length_lines, h.length_eq]

/-- **Lines tell records**, whatever the levels they stand at. -/
theorem reports_eq_of_lines {d d' : Direction} {depth depth' : Nat} {cs cs' : List Callback}
    {records records' : List Record} (h : List.Forall₂ Callback.Reported cs records)
    (h' : List.Forall₂ Callback.Reported cs' records')
    (hlines : lines d depth cs = lines d' depth' cs') : records = records' := by
  induction h generalizing depth depth' cs' records' with
  | nil =>
    cases h' with
    | nil => rfl
    | cons => exact absurd hlines.symm (List.cons_ne_nil _ _)
  | cons hr _ ih =>
    cases h' with
    | nil => exact absurd hlines (List.cons_ne_nil _ _)
    | cons hr' hrest' =>
      rw [lines_cons, lines_cons] at hlines
      obtain ⟨hline, hrest⟩ := List.cons.inj hlines
      rw [ih hrest' hrest, hr.toldBy_line.unique (lineAt_inj hline ▸ hr'.toldBy_line)]

end Printer

namespace Pass

/-! ### The callbacks that are heard -/

/-- **The callbacks a pass hears**: those up to the first malformed one, which is the last. -/
def heard (cs : List Callback) : List Callback :=
  cs.take ((cs.findIdx fun c => c.Malformed) + 1)

variable {p : Pass} {c : Callback} {cs : List Callback}

theorem heard_cons_of_malformed (h : c.Malformed) (cs : List Callback) : heard (c :: cs) = [c] := by
  simp [heard, List.findIdx_cons, h]

theorem heard_cons_of_readable (h : ¬c.Malformed) (cs : List Callback) :
    heard (c :: cs) = c :: heard cs := by
  simp [heard, List.findIdx_cons, h]

theorem exists_heard_cons (c : Callback) (cs : List Callback) :
    ∃ rest, heard (c :: cs) = c :: rest := by
  rw [heard, List.take_succ_cons]
  exact ⟨_, rfl⟩

theorem heard_of_readable (h : ∀ c ∈ cs, ¬c.Malformed) : heard cs = cs := by
  refine List.take_of_length_le (Nat.le_succ_of_le (Nat.le_of_eq ?_))
  exact (List.findIdx_eq_length.mpr (by simpa using h)).symm

theorem readable_of_getElem?_findIdx (h : cs[cs.findIdx fun c => c.Malformed]? = none) :
    ∀ c ∈ cs, ¬c.Malformed := by
  have hlength : (cs.findIdx fun c => c.Malformed) = cs.length :=
    Nat.le_antisymm List.findIdx_le_length (List.getElem?_eq_none_iff.mp h)
  simpa using List.findIdx_eq_length.mp hlength

/-- Up to the first malformed callback all are readable. -/
theorem readable_of_mem_take {i : Nat} (hi : i ≤ cs.findIdx fun c => c.Malformed) :
    ∀ q ∈ cs.take i, ¬q.Malformed := by
  intro q hq
  obtain ⟨j, hj, rfl⟩ := List.mem_take_iff_getElem.mp hq
  have hji : j < i := Nat.lt_of_lt_of_le hj (Nat.min_le_left _ _)
  simpa using List.not_of_lt_findIdx (Nat.lt_of_lt_of_le hji hi)

/-- **The first malformed callback** has only readable ones before it. -/
theorem malformed_of_getElem?_findIdx (h : cs[cs.findIdx fun c => c.Malformed]? = some c) :
    c.Malformed ∧ ∀ q ∈ cs.take (cs.findIdx fun c => c.Malformed), ¬q.Malformed := by
  obtain ⟨hlt, rfl⟩ := List.getElem?_eq_some_iff.mp h
  exact ⟨by simpa using List.findIdx_getElem (w := hlt), readable_of_mem_take (Nat.le_refl _)⟩

/-- What a pass hears before some callback is readable, and it is the beginning of the pass. -/
theorem take_heard {i : Nat} (hc : (heard cs)[i]? = some c) :
    (heard cs).take i = cs.take i ∧ ∀ q ∈ cs.take i, ¬q.Malformed := by
  have hlt := (List.getElem?_eq_some_iff.mp hc).1
  rw [heard, List.length_take] at hlt
  have hi : i ≤ cs.findIdx fun c => c.Malformed := by omega
  rw [heard, List.take_take, Nat.min_eq_left (Nat.le_succ_of_le hi)]
  exact ⟨rfl, readable_of_mem_take hi⟩

/-- **A pass goes on**: its printer has room for everything, and its recorder has not
failed. -/
structure GoesOn (p : Pass) : Prop where
  /-- The printer has room for everything. -/
  room : p.printer.sink.room = none
  /-- The recorder has not failed. -/
  failure : p.recorder.failure = none

theorem goesOn_fresh (d : Direction) : (fresh d).GoesOn :=
  ⟨rfl, rfl⟩

namespace GoesOn

/-- The pass after its printer has printed a callback and its recorder has heard it. -/
def next (p : Pass) (c : Callback) : Pass :=
  ⟨(p.printer.step c).1, (p.recorder.step c).1⟩

/-- **A readable callback** whose line has a margin is printed and recorded, and the pass goes
on. -/
theorem step_of_readable (h : p.GoesOn) (hfits : 2 * p.printer.level c ≤ Printer.widestMargin)
    (hc : ¬c.Malformed) : p.step c = (next p c, .accepted) ∧ (next p c).GoesOn := by
  obtain ⟨r, hr, -⟩ := Callback.exists_record hc
  simp only [step, next, Printer.step_of_unlimited h.room hfits,
    Recorder.step_of_record h.failure hr]
  exact ⟨rfl, rfl, h.failure⟩

/-- **A malformed callback** whose line has a margin is printed, and then the recorder refuses
it. -/
theorem step_of_malformed (h : p.GoesOn) (hfits : 2 * p.printer.level c ≤ Printer.widestMargin)
    {e : MalformedId} (hc : c.record = .error e) :
    p.step c = (next p c, .refused (.second (.leaf (.malformed e)))) ∧
      (next p c).recorder.failure = some e := by
  simp only [step, next, Printer.step_of_unlimited h.room hfits,
    Recorder.step_of_malformed h.failure hc, and_true]
  rfl

/-- **A callback whose line has no margin** stops the pass, and the recorder does not hear it. -/
theorem step_of_wide (hwide : Printer.widestMargin < 2 * p.printer.level c) :
    p.step c = (⟨(p.printer.step c).1, p.recorder⟩, .stopped) := by
  simp only [step, Printer.step_of_lt hwide]
  rfl

/-- **A line with a margin** is written, and the printer goes on from the depth after it. -/
theorem printer_next (h : p.GoesOn) (hfits : 2 * p.printer.level c ≤ Printer.widestMargin) :
    (next p c).printer.direction = p.printer.direction ∧
      (next p c).printer.depth =
        Printer.depthAfter p.printer.direction p.printer.depth c.kind ∧
      ∀ rest, (p.printer.run (c :: rest)).1 = ((next p c).printer.run rest).1 := by
  have hprinted := Printer.step_of_unlimited h.room hfits
  refine ⟨by rw [next, hprinted], by rw [next, hprinted], fun rest => ?_⟩
  rw [Printer.run, Printer.run, runWith_cons (by simp [hprinted])]
  rfl

/-- **A readable callback** whose line has a margin is followed by the rest of the pass. -/
theorem replay_cons_of_readable (h : p.GoesOn)
    (hfits : 2 * p.printer.level c ≤ Printer.widestMargin) (hc : ¬c.Malformed)
    (cs : List Callback) :
    p.replay (c :: cs) = (((next p c).replay cs).1,
      ((next p c).replay cs).2.map fun x => (x.1 + 1, x.2)) := by
  have hstep := (h.step_of_readable hfits hc).1
  rw [replay, replayWith_cons_of_accepted (by simp [hstep]), hstep]
  rfl

/-- **A pass with margins prints what it hears, and records it too**; its fault is that of the
recorder. -/
theorem replay_of_margins (h : p.GoesOn)
    (hm : Printer.HasMargins p.printer.direction p.printer.depth (heard cs)) :
    p.replay cs = (⟨(p.printer.run (heard cs)).1, (p.recorder.run (heard cs)).1⟩,
      match (p.recorder.run (heard cs)).1.failure with
      | none => .accepted
      | some e => .refused (cs.findIdx fun c => c.Malformed, .second (.leaf (.malformed e)))) := by
  induction cs generalizing p with
  | nil =>
    have hrun : p.recorder.run [] = (p.recorder, []) := rfl
    rw [heard, List.take_nil, hrun, h.failure]
    rfl
  | cons c cs ih =>
    by_cases hc : c.Malformed
    · rw [heard_cons_of_malformed hc] at hm ⊢
      obtain ⟨id, -, hrecord⟩ := Callback.record_of_malformed hc
      obtain ⟨hstep, hfailure⟩ := h.step_of_malformed (Printer.hasMargins_cons.mp hm).1 hrecord
      have hrun : (p.recorder.run [c]).1 = (next p c).recorder := rfl
      rw [replay, replayWith_cons (by simp [hstep]), hstep, hrun, hfailure]
      simp [List.findIdx_cons, hc, next, Printer.run, Answer.map]
    · rw [heard_cons_of_readable hc] at hm ⊢
      obtain ⟨hfits, hrest⟩ := Printer.hasMargins_cons.mp hm
      have hnext := (h.step_of_readable hfits hc).2
      obtain ⟨hdirection, hdepth, hprinted⟩ := h.printer_next hfits
      have hlater : Printer.HasMargins (next p c).printer.direction (next p c).printer.depth
          (heard cs) := by
        rw [hdirection, hdepth]
        exact hrest
      have hrun : (p.recorder.run (c :: heard cs)).1 = ((next p c).recorder.run (heard cs)).1 := rfl
      rw [h.replay_cons_of_readable hfits hc, ih hnext hlater, hrun, hprinted]
      rcases ((next p c).recorder.run (heard cs)).1.failure with _ | e
      · rfl
      · simp [List.findIdx_cons, hc, Answer.map]

/-- **A pass without a margin for some line** ends before that line. What was heard before it is
printed and recorded. -/
theorem replay_of_wide {i : Nat} (h : p.GoesOn) (hc : (heard cs)[i]? = some c)
    (hm : Printer.HasMargins p.printer.direction p.printer.depth ((heard cs).take i))
    (hwide : Printer.widestMargin < 2 * Printer.lineDepth p.printer.direction
      (Printer.depthOf p.printer.direction p.printer.depth ((heard cs).take i)) c.kind) :
    p.replay cs = (⟨(p.printer.run (heard cs)).1, (p.recorder.run ((heard cs).take i)).1⟩,
      .stopped) := by
  induction cs generalizing p i with
  | nil => exact absurd hc (by simp [heard])
  | cons q cs ih =>
    cases i with
    | zero =>
      obtain ⟨rest, hheard⟩ := exists_heard_cons q cs
      rw [hheard] at hc hwide ⊢
      obtain rfl : q = c := Option.some.inj hc
      have hstep := step_of_wide (p := p) hwide
      have hstop : (p.printer.step q).2 = .stopped := Printer.step_eq_stopped_iff.mpr hwide
      rw [replay, replayWith_cons (by simp [hstep]), hstep, Printer.run,
        runWith_cons_of_stopped hstop]
      rfl
    | succ i =>
      -- more is heard after this callback, so it is readable
      have hq : ¬q.Malformed := fun hq => by simp [heard_cons_of_malformed hq] at hc
      rw [heard_cons_of_readable hq] at hc hm hwide ⊢
      obtain ⟨hfits, hrest⟩ := Printer.hasMargins_cons.mp hm
      have hnext := (h.step_of_readable hfits hq).2
      obtain ⟨hdirection, hdepth, hprinted⟩ := h.printer_next hfits
      have hlater := ih (p := next p q) (i := i) hnext hc
        (by rw [hdirection, hdepth]; exact hrest) (by rw [hdirection, hdepth]; exact hwide)
      rw [h.replay_cons_of_readable hfits hq, hlater, hprinted]
      rfl

end GoesOn

/-! ### Whole passes -/

/-- The printed text of a pass with margins is the lines of the callbacks it hears. -/
theorem bytes_replay_fresh {d : Direction} (hm : Printer.HasMargins d 0 (heard cs)) :
    ((fresh d).replay cs).1.printer.sink.bytes =
      (String.join (Printer.lines d 0 (heard cs))).toUTF8 := by
  rw [(goesOn_fresh d).replay_of_margins hm]
  exact congrArg (·.sink.bytes) (Printer.after_of_margins hm)

/-- **A readable pass** with margins is printed and recorded to its end. -/
theorem replay_fresh_of_readable {d : Direction} (hm : Printer.HasMargins d 0 (heard cs))
    (h : ∀ c ∈ cs, ¬c.Malformed) :
    ∃ records, List.Forall₂ Callback.Reported cs records ∧
      ((fresh d).replay cs).1.recorder = ⟨.ofList records, none⟩ ∧
      ((fresh d).replay cs).2 = .accepted := by
  obtain ⟨records, -, hreported, hrun⟩ := Recorder.run_fresh_of_readable h
  refine ⟨records, hreported, ?_⟩
  have hrecorder : ((fresh d).recorder.run (heard cs)).1 = ⟨.ofList records, none⟩ := by
    rw [heard_of_readable h]
    exact congrArg Prod.fst hrun
  rw [(goesOn_fresh d).replay_of_margins hm, hrecorder]
  exact ⟨rfl, rfl⟩

/-- **A pass with a malformed callback** and with margins up to it ends there, with the fault of
the recorder. -/
theorem replay_fresh_of_malformed {d : Direction} (hm : Printer.HasMargins d 0 (heard cs))
    (h : cs[cs.findIdx fun c => c.Malformed]? = some c) :
    ∃ id, (c.carried.find? fun id => Unreadable id) = some id ∧
      ((fresh d).replay cs).1.recorder.failure = some ⟨id⟩ ∧
      ((fresh d).replay cs).2 =
        .refused (cs.findIdx fun c => c.Malformed, .second (.leaf (.malformed ⟨id⟩))) := by
  obtain ⟨hmalformed, hbefore⟩ := malformed_of_getElem?_findIdx h
  have hheard : heard cs = cs.take (cs.findIdx fun c => c.Malformed) ++ [c] := by
    rw [heard, List.take_add_one, h]
    rfl
  obtain ⟨records, id, -, hfind, hrun⟩ := Recorder.run_fresh_of_malformed hbefore hmalformed []
  have hrecorder : ((fresh d).recorder.run (heard cs)).1 = ⟨.ofList records, some ⟨id⟩⟩ := by
    rw [hheard]
    exact congrArg Prod.fst hrun
  refine ⟨id, hfind, ?_⟩
  rw [(goesOn_fresh d).replay_of_margins hm, hrecorder]
  exact ⟨rfl, rfl⟩

/-- **A pass is stopped by a line without a margin**, and by nothing else. -/
theorem replay_fresh_ne_stopped_iff (d : Direction) (cs : List Callback) :
    ((fresh d).replay cs).2 ≠ .stopped ↔ Printer.HasMargins d 0 (heard cs) := by
  constructor
  · intro h
    by_contra hm
    obtain ⟨i, c, hc, hbefore, hwide⟩ := Printer.exists_first_wide hm
    exact h (congrArg Prod.snd ((goesOn_fresh d).replay_of_wide hc hbefore hwide))
  · intro hm
    rw [(goesOn_fresh d).replay_of_margins hm]
    rcases ((fresh d).recorder.run (heard cs)).1.failure with _ | e <;> simp

/-- **What is left of a pass that is stopped**: the lines and the records of the callbacks before
the first line without a margin. -/
theorem exists_of_replay_fresh_stopped {d : Direction} (h : ((fresh d).replay cs).2 = .stopped) :
    ∃ i level, (Printer.levels d 0 (heard cs))[i]? = some level ∧
      Printer.widestMargin < 2 * level ∧ Printer.HasMargins d 0 ((heard cs).take i) ∧
      ((fresh d).replay cs).1.printer.sink.bytes =
        (String.join ((Printer.lines d 0 (heard cs)).take i)).toUTF8 ∧
      ∃ log, ((fresh d).replay cs).1.recorder.finished = .ok log ∧
        List.Forall₂ Callback.Reported (cs.take i) log.toList := by
  have hm : ¬Printer.HasMargins d 0 (heard cs) := fun hm =>
    (replay_fresh_ne_stopped_iff d cs).mpr hm h
  obtain ⟨i, c, hc, hbefore, hwide⟩ := Printer.exists_first_wide hm
  obtain ⟨htake, hreadable⟩ := take_heard hc
  obtain ⟨records, -, hreported, hrun⟩ := Recorder.run_fresh_of_readable hreadable
  have hrecorder : ((fresh d).recorder.run ((heard cs).take i)).1 = ⟨.ofList records, none⟩ := by
    rw [htake]
    exact congrArg Prod.fst hrun
  refine ⟨i, _, by rw [Printer.getElem?_levels, hc]; rfl, hwide, hbefore, ?_⟩
  rw [(goesOn_fresh d).replay_of_wide hc hbefore hwide, hrecorder]
  refine ⟨?_, .ofList records, rfl, hreported⟩
  exact congrArg (·.1.sink.bytes) (Printer.run_fresh_of_wide hbefore hc hwide)

theorem exists_reported_getElem? {records : List Record}
    (h : List.Forall₂ Callback.Reported cs records) {i : Nat} (hc : cs[i]? = some c) :
    ∃ r, (Log.ofList records).get? i = some r ∧ c.Reported r := by
  obtain ⟨hlt, rfl⟩ := List.getElem?_eq_some_iff.mp hc
  have hlt' : i < records.length := h.length_eq ▸ hlt
  refine ⟨records[i], ?_, h.get hlt hlt'⟩
  rw [← Log.getElem?_toList]
  exact List.getElem?_eq_getElem hlt'

/-- **A pass with margins has a fault if and only if a callback is malformed.** -/
theorem replay_fresh_fault_iff {d : Direction} (hm : Printer.HasMargins d 0 (heard cs)) :
    (∃ fault, ((fresh d).replay cs).2 = .refused fault) ↔ ∃ c ∈ cs, c.Malformed := by
  constructor
  · rintro ⟨fault, hfault⟩
    by_contra hnone
    obtain ⟨records, -, -, hok⟩ := replay_fresh_of_readable hm fun c hc hbad => hnone ⟨c, hc, hbad⟩
    exact absurd (hok.symm.trans hfault) (by simp)
  · rintro ⟨c, hc, hbad⟩
    have hlt : (cs.findIdx fun c => c.Malformed) < cs.length :=
      List.findIdx_lt_length_of_exists ⟨c, hc, by simpa using hbad⟩
    obtain ⟨id, -, -, hanswer⟩ :=
      replay_fresh_of_malformed hm (List.getElem?_eq_getElem hlt)
    exact ⟨_, hanswer⟩

/-- A pass that is accepted to its end has margins and no malformed callback. -/
theorem readable_of_replay_fresh {d : Direction} (h : ((fresh d).replay cs).2 = .accepted) :
    Printer.HasMargins d 0 (heard cs) ∧ ∀ c ∈ cs, ¬c.Malformed := by
  have hm := (replay_fresh_ne_stopped_iff d cs).mp (by simp [h])
  refine ⟨hm, fun c hc hbad => ?_⟩
  obtain ⟨fault, hfault⟩ := (replay_fresh_fault_iff hm).mpr ⟨c, hc, hbad⟩
  exact absurd (h.symm.trans hfault) (by simp)

/-- **The printed text of a clean pass tells its log**: two passes that are accepted to their ends
and print the same have recorded the same, even when they go in different directions. -/
theorem recorder_eq_of_bytes {d d' : Direction} {cs cs' : List Callback}
    (h : ((fresh d).replay cs).2 = .accepted) (h' : ((fresh d').replay cs').2 = .accepted)
    (hbytes : ((fresh d).replay cs).1.printer.sink.bytes =
      ((fresh d').replay cs').1.printer.sink.bytes) :
    ((fresh d).replay cs).1.recorder = ((fresh d').replay cs').1.recorder := by
  obtain ⟨hm, hreadable⟩ := readable_of_replay_fresh h
  obtain ⟨hm', hreadable'⟩ := readable_of_replay_fresh h'
  obtain ⟨records, hreported, hrecorder, -⟩ := replay_fresh_of_readable hm hreadable
  obtain ⟨records', hreported', hrecorder', -⟩ := replay_fresh_of_readable hm' hreadable'
  rw [bytes_replay_fresh hm, bytes_replay_fresh hm', heard_of_readable hreadable,
    heard_of_readable hreadable'] at hbytes
  have hlines := Delimited.join_lines_inj (Printer.isLine_of_mem_lines hreported)
    (Printer.isLine_of_mem_lines hreported') (String.toByteArray_inj.mp hbytes)
  rw [hrecorder, hrecorder', Printer.reports_eq_of_lines hreported hreported' hlines]

/-- **Text and log of a pass go together.** A pass is what a tee of a printer and a recorder makes
of the callbacks, up to the first fault. It hears the callbacks up to the first malformed one, and
each has a line, behind two blanks for every level.

A line without a margin stops the program, and nothing else does. Then the lines before it are
printed, and the callbacks before it are recorded.

Else the printed text is all of these lines, that of the malformed callback included. There
is a fault if and only if there is a malformed callback. Then the recorder refuses the
first one, with the first malformed id it carries, and that is what it answers in place of a
log. Without a fault the text has as many line feeds as the log has records. The line of a
callback ends where the first line feed after it stands, and it tells the record at its place in
the log: its ids name the nodes in the slots, and a dash stands for each absent one. So a pass
that prints the same text without a fault records the same log. -/
theorem replay_fresh_in_step (d : Direction) (cs : List Callback) :
    let k := cs.findIdx fun c => c.Malformed
    let levels := Printer.levels d 0 (cs.take (k + 1))
    let lines := levels.zipWith Printer.lineAt (cs.take (k + 1))
    let (pass, answer) := (fresh d).replay cs
    (Visitor.tee (.leaf (.printer (.fresh d .unlimited))) (.leaf (.recorder .fresh))).replay cs =
        (.tee (.leaf (.printer pass.printer)) (.leaf (.recorder pass.recorder)), answer) ∧
      (answer ≠ .stopped ↔ ∀ level ∈ levels, 2 * level ≤ Printer.widestMargin) ∧
      (answer = .stopped → ∃ i level, levels[i]? = some level ∧
        Printer.widestMargin < 2 * level ∧ Printer.HasMargins d 0 ((cs.take (k + 1)).take i) ∧
        pass.printer.sink.bytes = (String.join (lines.take i)).toUTF8 ∧
        ∃ log, pass.recorder.finished = .ok log ∧
          List.Forall₂ Callback.Reported (cs.take i) log.toList) ∧
      (answer ≠ .stopped →
        pass.printer.sink.bytes = (String.join lines).toUTF8 ∧
        ((∃ fault, answer = .refused fault) ↔ ∃ c ∈ cs, c.Malformed) ∧
        match cs[k]? with
        | some c => ∃ id, (c.carried.find? fun id => Unreadable id) = some id ∧
            answer = .refused (k, .second (.leaf (.malformed ⟨id⟩))) ∧
            pass.recorder.finished = .error ⟨id⟩
        | none => ∃ log, answer = .accepted ∧ pass.recorder.finished = .ok log ∧
            (String.join lines).toList.count '\n' = log.size ∧
            (∀ i c, cs[i]? = some c → '\n' ∉ c.line.toList ∧
              ∃ r, log.get? i = some r ∧ c.Reported r ∧ r.ToldBy c.line) ∧
            ∀ d' cs', ((fresh d').replay cs').2 = .accepted →
              ((fresh d').replay cs').1.printer.sink.bytes = pass.printer.sink.bytes →
              ((fresh d').replay cs').1.recorder.finished = .ok log) := by
  intro k levels lines
  refine ⟨visitor_replay (fresh d) cs, replay_fresh_ne_stopped_iff d cs,
    exists_of_replay_fresh_stopped, fun hgoes => ?_⟩
  have hm := (replay_fresh_ne_stopped_iff d cs).mp hgoes
  refine ⟨bytes_replay_fresh hm, replay_fresh_fault_iff hm, ?_⟩
  rcases hk : cs[k]? with _ | c
  · -- no callback is malformed, so all of them are heard
    have hreadable := readable_of_getElem?_findIdx hk
    obtain ⟨records, hreported, hrecorder, hanswer⟩ := replay_fresh_of_readable hm hreadable
    have hfinished : ((fresh d).replay cs).1.recorder.finished = .ok (.ofList records) := by
      rw [hrecorder]
      rfl
    refine ⟨.ofList records, hanswer, hfinished, ?_, ?_, ?_⟩
    · have hlines : lines = Printer.lines d 0 cs :=
        congrArg (Printer.lines d 0) (heard_of_readable hreadable)
      rw [hlines, Printer.count_lineFeed_lines hreported]
      rfl
    · intro i c hc
      obtain ⟨r, hget, hr⟩ := exists_reported_getElem? hreported hc
      exact ⟨hr.toldBy_line.lineFeed_notMem, r, hget, hr, hr.toldBy_line⟩
    · intro d' cs' hanswer' hbytes
      rw [recorder_eq_of_bytes hanswer' hanswer hbytes]
      exact hfinished
  · obtain ⟨id, hfind, hfailure, hanswer⟩ := replay_fresh_of_malformed hm hk
    refine ⟨id, hfind, hanswer, ?_⟩
    show ((fresh d).replay cs).1.recorder.finished = .error ⟨id⟩
    rw [Recorder.finished, hfailure]

/-- **A pass can be stopped without a fault**: all ids are readable here, but the regions nest too
deep for the printer. -/
theorem stopped_without_fault :
    (∀ c ∈ List.replicate 32769 (Callback.parallelEnd "1" "2"), ¬c.Malformed) ∧
      ((fresh .backward).replay (List.replicate 32769 (.parallelEnd "1" "2"))).2 = .stopped := by
  have hreadable : ∀ c ∈ List.replicate 32769 (Callback.parallelEnd "1" "2"), ¬c.Malformed := by
    intro c hc
    rw [List.eq_of_mem_replicate hc]
    decide
  refine ⟨hreadable, not_not.mp fun hgoes => ?_⟩
  have hm := (replay_fresh_ne_stopped_iff _ _).mp hgoes
  rw [heard_of_readable hreadable, Printer.hasMargins_nested_iff rfl] at hm
  exact absurd hm (by decide)

end Pass

end ScanAudit
