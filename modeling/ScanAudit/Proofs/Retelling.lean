import ScanAudit.Proofs.Identifiers
import ScanAudit.Proofs.RecordedLog
import ScanAudit.Proofs.RecorderRun

/-!
# Recorded logs can be told again

A log keeps all there is to know about a pass. Each of its records can be turned back into a
callback of its kind (`ScanAudit.Record.retold`), with the nodes in its slots spelled in any
way that is read as these nodes, and a recorder that hears these callbacks records the same
log again.

Behind this stands a simple fact: of a callback the recorder takes in nothing but the record it
amounts to (`ScanAudit.Recorder.run_congr`). The spelling of an id is not part of the record. So
two passes that differ in spelling leave the same log, and a callback that comes again in
another spelling is a repeated record, for the check that looks for those.
-/

namespace ScanAudit

/-! ### Spellings -/

/-- **A spelling of the nodes of a record**: for each slot and node a text that is read as this
node. -/
structure Spelling where
  /-- The text of a node in a slot. -/
  text : Nat → NodeId → String
  /-- The text is an id of the node. -/
  parse_text : ∀ slot node, NodeId.parse (text slot node) = .ok node

namespace Spelling

/-- Every node by its plain numeral. -/
def plain : Spelling :=
  ⟨fun _ => NodeId.text, fun _ => NodeId.parse_text⟩

/-- Every node by its numeral with a sign. -/
def signed : Spelling :=
  ⟨fun _ node => Layout.signed node.number, fun _ => NodeId.parse_signed⟩

/-- Every node by its numeral with leading zeros up to a width. -/
def zeroFilled (width : Nat) : Spelling :=
  ⟨fun _ node => Layout.zeroFill width node.number, fun _ => NodeId.parse_zeroFill width⟩

theorem parseOptional_map (s : Spelling) (slot : Nat) (node : Option NodeId) :
    NodeId.parseOptional (node.map (s.text slot)) = .ok node := by
  cases node with
  | none => rfl
  | some node =>
    rw [Option.map_some, parseOptional_some, s.parse_text]
    rfl

end Spelling

/-! ### From records back to callbacks -/

/-- **The callback that a record reports**, in a given spelling: what stands in each slot is
taken as the layout of the kind has it. There is none when a slot that must be set is absent. -/
def Record.retold (s : Spelling) (r : Record) : Option Callback :=
  match r.kind, r.slot0.map (s.text 0), r.slot1.map (s.text 1), r.slot2.map (s.text 2) with
  | .atom, before, some current, after => some (.atom before current after)
  | .chunkStart, some start, before, _ => some (.chunkStart start before)
  | .chunkEnd, some last, after, _ => some (.chunkEnd last after)
  | .parallelStart, some region, some branch, _ => some (.parallelStart region branch)
  | .parallelEnd, some region, some last, _ => some (.parallelEnd region last)
  | .branchStart, some region, some first, _ => some (.branchStart region first)
  | .branchEnd, some region, some last, _ => some (.branchEnd region last)
  | _, _, _, _ => none

/-- **A record with the layout of its kind is told again** by a callback that amounts to it. -/
theorem Record.Shaped.exists_retold {r : Record} (h : r.Shaped) (s : Spelling) :
    ∃ c, r.retold s = some c ∧ c.record = .ok r := by
  cases h with
  | atom before current after =>
    refine ⟨_, rfl, ?_⟩
    simp only [Callback.record, s.parseOptional_map, s.parse_text]
    rfl
  | chunkStart node other | chunkEnd node other =>
    refine ⟨_, rfl, ?_⟩
    simp only [Callback.record, s.parseOptional_map, s.parse_text]
    rfl
  | parallelStart | parallelEnd | branchStart | branchEnd =>
    refine ⟨_, rfl, ?_⟩
    simp only [Callback.record, s.parse_text]
    rfl

/-- The end of a region in three spellings. -/
example :
    let r := Record.parallelEnd ⟨4, by decide⟩ ⟨11, by decide⟩
    r.retold .plain = some (.parallelEnd "4" "11") ∧
      r.retold .signed = some (.parallelEnd "+4" "+11") ∧
      r.retold (.zeroFilled 3) = some (.parallelEnd "004" "011") := by decide

/-- A log of such records is told again by as many callbacks, each in a spelling of its own. -/
theorem exists_retold {records : List Record} (h : ∀ r ∈ records, r.Shaped)
    (spell : Nat → Spelling) :
    ∃ cs : List Callback, records.mapIdx (fun i r => r.retold (spell i)) = cs.map some ∧
      cs.map Callback.record = records.map Except.ok := by
  induction records generalizing spell with
  | nil => exact ⟨[], rfl, rfl⟩
  | cons r records ih =>
    obtain ⟨c, hc, hrecord⟩ := (h r (by simp)).exists_retold (spell 0)
    obtain ⟨cs, hcs, hrecords⟩ := ih (fun q hq => h q (by simp [hq])) fun i => spell (i + 1)
    refine ⟨c :: cs, ?_, by rw [List.map_cons, List.map_cons, hrecord, hrecords]⟩
    rw [List.mapIdx_cons, List.map_cons, hc, hcs]

/-! ### Callbacks that differ in spelling -/

/-- **Two callbacks differ at most in spelling**: they are of one kind, and of their ids, taken
one by one, both are absent or both name the same node. -/
def Callback.Alike (c c' : Callback) : Prop :=
  c.kind = c'.kind ∧ List.Forall₂ (fun x y => ∃ slot, Reads x slot ∧ Reads y slot) c.ids c'.ids

theorem mapM_parseOptional_congr {xs ys : List (Option String)}
    (h : List.Forall₂ (fun x y => ∃ slot, Reads x slot ∧ Reads y slot) xs ys) :
    xs.mapM NodeId.parseOptional = ys.mapM NodeId.parseOptional := by
  induction h with
  | nil => rfl
  | cons hslot _ ih =>
    obtain ⟨slot, hx, hy⟩ := hslot
    rw [List.mapM_cons, List.mapM_cons, parseOptional_of_reads hx, parseOptional_of_reads hy, ih]

/-- **The spelling of ids is not part of the record.** -/
theorem Callback.Alike.record_eq {c c' : Callback} (h : c.Alike c') : c.record = c'.record := by
  rw [Callback.record_eq, Callback.record_eq, h.1, mapM_parseOptional_congr h.2]

theorem map_record_of_alike {cs cs' : List Callback} (h : List.Forall₂ Callback.Alike cs cs') :
    cs.map Callback.record = cs'.map Callback.record := by
  induction h with
  | nil => rfl
  | cons halike _ ih => rw [List.map_cons, List.map_cons, halike.record_eq, ih]

/-! ### What a recorder takes in -/

namespace Recorder

theorem step_congr {c c' : Callback} (h : c.record = c'.record) (r : Recorder) :
    r.step c = r.step c' := by
  simp only [step, h]

/-- **Of a callback a recorder takes in nothing but its record**, or the malformed id that it
has in place of one. -/
theorem run_congr {cs cs' : List Callback} (h : cs.map Callback.record = cs'.map Callback.record)
    (r : Recorder) : r.run cs = r.run cs' := by
  induction cs generalizing cs' r with
  | nil =>
    obtain rfl : cs' = [] := by simpa using h.symm
    rfl
  | cons c cs ih =>
    cases cs' with
    | nil => exact absurd h (by simp)
    | cons c' cs' =>
      obtain ⟨hc, hcs⟩ := List.cons.inj h
      simp only [run, step_congr hc, ih hcs]

end Recorder

/-- Where two callbacks of a pass amount to one record, a position of the log is repeated. -/
theorem Duplicates.repeats_of_record_eq {cs : List Callback} {records : List Record}
    (h : cs.map Callback.record = records.map Except.ok) {i j : Nat} {c c' : Callback}
    (hij : i < j) (hc : cs[i]? = some c) (hc' : cs[j]? = some c') (heq : c.record = c'.record) :
    Repeats records i j := by
  have hget (n : Nat) : cs[n]?.map Callback.record = records[n]?.map Except.ok := by
    rw [← List.getElem?_map, h, List.getElem?_map]
  -- both positions hold the record of their callback, which is the same
  have hi := hget i
  have hj := hget j
  rw [hc, Option.map_some, eq_comm, Option.map_eq_some_iff] at hi
  rw [hc', Option.map_some, ← heq, eq_comm, Option.map_eq_some_iff] at hj
  obtain ⟨r, hr, hok⟩ := hi
  obtain ⟨s, hs, hok'⟩ := hj
  obtain rfl : r = s := Except.ok.inj (hok.trans hok'.symm)
  exact repeats_iff.mpr ⟨hij, r, hr, hs⟩

/-- A log with a repeat has the first one among the failures of its report. -/
theorem Report.exists_duplicate_of_repeats {log : List Record} {i j : Nat}
    (h : Duplicates.Repeats log i j) (d : Direction) :
    ∃ r first index, index ≤ j ∧ .duplicate r first index ∈ (audit d log).failures := by
  have hrepeat : ¬log.Nodup := fun hnodup =>
    Duplicates.nodup_iff_forall_not_repeats.mp hnodup i j h
  obtain ⟨first, index, hfirst⟩ := Duplicates.exists_firstRepeat hrepeat
  obtain ⟨-, r, -, hr⟩ := Duplicates.repeats_iff.mp hfirst.1
  exact ⟨r, first, index, hfirst.2 i j h, mem_failures_audit_iff.mpr
    ⟨.duplicates, Duplicates.check_of_firstRepeat hfirst hr⟩⟩

/-- **A recorded log can be told again, in any spelling.** Let every id of a pass name a node.

* Each record of the log can be turned back into a callback, with its nodes in any spelling, a
  different one for each record if need be. A recorder that hears these callbacks ends as it
  did after the pass: it has not failed, and it has recorded the same log. So the reports on
  the two logs are the same, in either direction.
* A pass that differs at most in spelling is recorded in the same way.
* A callback that comes again, if in another spelling, is reported as a repeated record, or one
  that comes again before it is. -/
theorem Recorder.run_fresh_retold {cs : List Callback} (h : ∀ c ∈ cs, ¬c.Malformed) :
    let log := (fresh.run cs).1.log
    (fresh.run cs).1.failure = none ∧
      (∀ spell : Nat → Spelling, ∃ cs' : List Callback,
        log.toList.mapIdx (fun i r => r.retold (spell i)) = cs'.map some ∧
          fresh.run cs' = fresh.run cs ∧
          ∀ d, Report.audit d (fresh.run cs').1.log.toList = Report.audit d log.toList) ∧
      (∀ cs', List.Forall₂ Callback.Alike cs cs' → fresh.run cs' = fresh.run cs) ∧
      ∀ d i j c c', i < j → cs[i]? = some c → cs[j]? = some c' → c.Alike c' →
        ∃ r first index, index ≤ j ∧
          .duplicate r first index ∈ (Report.audit d log.toList).failures := by
  intro log
  have hshaped : ∀ r ∈ log.toList, r.Shaped := orderly_fresh.run cs
  obtain ⟨records, hrecords, -, hrun⟩ := run_fresh_of_readable h
  have hlog : log.toList = records := by simp [log, hrun]
  refine ⟨by rw [hrun], fun spell => ?_, fun cs' hcs' => ?_, fun d i j c c' hij hc hc' halike => ?_⟩
  · obtain ⟨cs', hcs', hrecords'⟩ := exists_retold hshaped spell
    have hsame : fresh.run cs' = fresh.run cs :=
      run_congr (by rw [hrecords', hlog, hrecords]) fresh
    exact ⟨cs', hcs', hsame, fun d => by rw [hsame]⟩
  · exact (run_congr (map_record_of_alike hcs') fresh).symm
  · rw [hlog]
    exact Report.exists_duplicate_of_repeats
      (Duplicates.repeats_of_record_eq hrecords hij hc hc' halike.record_eq) d

/-- A pass in which the end of region 4 comes twice, the second time in another spelling. -/
def respelledPass : List Callback :=
  [.parallelEnd "4" "11", .atom (some "+12") "013" none, .parallelEnd "+4" "0011"]

/-- The second end of region 4 is reported, although no two callbacks of the pass are equal. -/
theorem duplicate_in_respelledPass :
    (∀ c ∈ respelledPass, ¬c.Malformed) ∧ respelledPass.Nodup ∧
      ∃ r first index, index ≤ 2 ∧ .duplicate r first index ∈
        (Report.audit .backward (Recorder.fresh.run respelledPass).1.log.toList).failures := by
  have hreadable : ∀ c ∈ respelledPass, ¬c.Malformed := by decide
  have halike : (Callback.parallelEnd "4" "11").Alike (.parallelEnd "+4" "0011") := by
    have hregion : NodeId.parse "4" = .ok ⟨4, by decide⟩ ∧
        NodeId.parse "+4" = .ok ⟨4, by decide⟩ := by decide
    have hlast : NodeId.parse "11" = .ok ⟨11, by decide⟩ ∧
        NodeId.parse "0011" = .ok ⟨11, by decide⟩ := by decide
    exact ⟨rfl, .cons ⟨_, .present hregion.1, .present hregion.2⟩
      (.cons ⟨_, .present hlast.1, .present hlast.2⟩ .nil)⟩
  exact ⟨hreadable, by decide, (Recorder.run_fresh_retold hreadable).2.2.2 .backward 0 2 _ _
    (by decide) rfl rfl halike⟩

end ScanAudit
