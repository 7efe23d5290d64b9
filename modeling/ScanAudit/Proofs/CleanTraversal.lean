import Mathlib.Data.List.Nodup
import ScanAudit.Demo
import ScanAudit.Proofs.Audit
import ScanAudit.Proofs.BranchSymmetry
import ScanAudit.Proofs.Duplicates
import ScanAudit.Proofs.Execution
import ScanAudit.Proofs.RegionBalance

/-!
# A well-formed traversal passes every check

The checks raise no false alarm. When no two regions of an execution start at one node,
no two branches of a region start at one node or end at one node, and no event that is
about no region comes twice (`ScanAudit.Execution.WellFormed`), then the traversal of the
execution in either direction is recorded without a fault and passes all three checks.

The checks need different things of the execution.

* How a traversal nests follows from the shape of the tree alone: a block is balanced, and
  a running region closes what was never opened, which is legal between blocks.
* So does the symmetry of its branches: each branch is reported once at either end.
* That no record comes twice is what the assumptions are for. Up to order the records of
  a traversal fall into groups, one for each region, and the record of any event names
  the region of its group; so it is enough that each group has no repetition.
-/

namespace ScanAudit.Execution

/-- **A well-formed execution**: nodes are used once where a node can be used once only. -/
structure WellFormed (e : Execution) : Prop where
  /-- No two regions, completed or running, start at one node. -/
  starts : (e.outlines.map (fun o => o.frame.start.number) ++
    e.frames.map fun f => f.start.number).Nodup
  /-- No two branches of a region start at one node. -/
  firsts : ∀ o ∈ e.outlines, (o.spans.map fun s => s.first.number).Nodup
  /-- No two branches of a region end at one node. -/
  lasts : ∀ o ∈ e.outlines, (o.spans.map fun s => s.last.number).Nodup
  /-- No event that is about no region comes twice. -/
  plains : (e.plains.map fun p => p.event.record).Nodup

/-- The records of a traversal. -/
def records (d : Direction) (e : Execution) : List Record :=
  (e.traversal d).map Event.record

theorem records_cons (d : Direction) (stretch : Stretch) (e : Execution) :
    records d (stretch :: e) = (stretch.traversal d).map Event.record ++ records d e := by
  rw [records, traversal, List.flatMap_cons, List.map_append]
  rfl

/-! ### Nesting -/

/-- An event that is about no region is neutral. -/
theorem Plain.neutral (d : Direction) (p : Plain) : Regions.Neutral d p.event.record := by
  cases d <;> cases p <;> exact ⟨Kind.noConfusion, Kind.noConfusion⟩

theorem Span.neutral_opening (d d' : Direction) (s : Span) (region : Node) :
    Regions.Neutral d (s.opening region d').record := by
  cases d <;> cases d' <;> exact ⟨Kind.noConfusion, Kind.noConfusion⟩

/-- A region is opened by the event that enters it. -/
theorem Frame.opens_opening (d : Direction) (f : Frame) :
    Regions.Opens d f.start.number (f.opening d).record := by
  cases d <;> exact ⟨rfl, rfl⟩

theorem Frame.closes_closing (d : Direction) (f : Frame) :
    Regions.Closes d f.start.number (f.closing d).record := by
  cases d <;> exact ⟨rfl, rfl⟩

mutual

/-- **The traversal of a block is balanced.** -/
theorem Block.balanced_traversal (d : Direction) :
    ∀ b : Block, Regions.Balanced d ((b.traversal d).map Event.record)
  | .nil => .nil
  | .plain p rest => .neutral (p.neutral d) (rest.balanced_traversal d)
  | .region frame branches rest => by
    have hbranches := branches.balanced_traversal d frame.start
    have hrest := rest.balanced_traversal d
    rw [Block.traversal, List.map_cons, List.map_append, List.map_cons]
    exact .block (frame.opens_opening d) hbranches (frame.closes_closing d) hrest

theorem Fork.balanced_traversal (d : Direction) (region : Node) :
    ∀ branches : Fork, Regions.Balanced d ((branches.traversal d region).map Event.record)
  | .nil => .nil
  | .cons span inner rest => by
    have hinner := inner.balanced_traversal d
    have hrest := rest.balanced_traversal d region
    rw [Fork.traversal, List.map_cons, List.map_append, List.map_cons]
    exact .neutral (span.neutral_opening d d region)
      (hinner.append (.neutral (span.neutral_opening d d.reverse region) hrest))

end

/-- **The traversal of an execution is accepted.** -/
theorem accepted_records (d : Direction) (e : Execution) :
    Regions.Accepted d (records d e) := by
  induction e with
  | nil => exact .nil
  | cons stretch e ih =>
    rw [records_cons]
    cases stretch with
    | block b => exact (b.balanced_traversal d).accepted.append ih
    | running frame => exact .close (frame.closes_closing d) ih

/-! ### Symmetry -/

/-- An event that is about no region counts for no branch. -/
theorem Plain.countOf_cons (k : Kind) (hk : k = .branchStart ∨ k = .branchEnd) (p : Plain)
    (region : NodeId) (rest : List Record) :
    Branches.countOf k region (p.event.record :: rest) = Branches.countOf k region rest := by
  rw [Branches.countOf_cons, if_neg, Nat.add_zero]
  rintro ⟨h, -⟩
  rcases hk with rfl | rfl <;> cases p <;> exact Kind.noConfusion h

theorem Frame.countOf_cons (k : Kind) (hk : k = .branchStart ∨ k = .branchEnd) (f : Frame)
    (d : Direction) (region : NodeId) (rest : List Record) :
    Branches.countOf k region ((f.opening d).record :: rest) =
      Branches.countOf k region rest := by
  rw [Branches.countOf_cons, if_neg, Nat.add_zero]
  rintro ⟨h, -⟩
  rcases hk with rfl | rfl <;> cases d <;> exact Kind.noConfusion h

/-- The record of any event that is about a region names the region. -/
theorem Event.not_orphan (x : Event) : ¬Branches.Orphan x.record := by
  rintro ⟨hk, hr⟩
  have hparallel : x.record.kind.isParallel := by
    rcases hk with hk | hk <;> rw [hk] <;> rfl
  obtain ⟨region, hregion⟩ := (Callback.shaped_record x.reads).exists_region hparallel
  rw [hregion] at hr
  exact absurd hr (by simp)

mutual

/-- **A block starts as many branches of a region as it ends.** -/
theorem Block.countOf_traversal (d : Direction) (region : NodeId) :
    ∀ b : Block, Branches.countOf .branchStart region ((b.traversal d).map Event.record) =
      Branches.countOf .branchEnd region ((b.traversal d).map Event.record)
  | .nil => rfl
  | .plain p rest => by
    have hrest := rest.countOf_traversal d region
    rw [Block.traversal, List.map_cons, p.countOf_cons _ (.inl rfl), p.countOf_cons _ (.inr rfl),
      hrest]
  | .region frame branches rest => by
    have hbranches := branches.countOf_traversal d frame.start region
    have hrest := rest.countOf_traversal d region
    simp only [Block.traversal, Frame.closing, List.map_cons, List.map_append,
      Branches.countOf_append, frame.countOf_cons _ (.inl rfl), frame.countOf_cons _ (.inr rfl),
      hbranches, hrest]

theorem Fork.countOf_traversal (d : Direction) (owner : Node) (region : NodeId) :
    ∀ branches : Fork,
      Branches.countOf .branchStart region ((branches.traversal d owner).map Event.record) =
        Branches.countOf .branchEnd region ((branches.traversal d owner).map Event.record)
  | .nil => rfl
  | .cons span inner rest => by
    have hinner := inner.countOf_traversal d region
    have hrest := rest.countOf_traversal d owner region
    -- the branch itself counts once at either end, whichever of the two comes first
    cases d <;>
      simp [Fork.traversal, Span.opening, Span.closing, Direction.reverse, Event.branchStart,
        Event.branchEnd, Record.branchStart, Record.branchEnd, Record.region, Kind.isParallel,
        Branches.countOf_cons, hinner, hrest] <;>
      omega

end

/-- **A traversal starts as many branches of a region as it ends.** -/
theorem countOf_records (d : Direction) (e : Execution) (region : NodeId) :
    Branches.countOf .branchStart region (records d e) =
      Branches.countOf .branchEnd region (records d e) := by
  induction e with
  | nil => rfl
  | cons stretch e ih =>
    rw [records_cons, Branches.countOf_append, Branches.countOf_append, ih]
    cases stretch with
    | block b => rw [Stretch.traversal, b.countOf_traversal d region]
    | running frame =>
      simp only [Stretch.traversal, Frame.closing, List.map_cons, List.map_nil,
        frame.countOf_cons _ (.inl rfl), frame.countOf_cons _ (.inr rfl), Branches.countOf_nil]

/-! ### No repetition -/

theorem Plain.region_record (p : Plain) : p.event.record.region = none := by
  cases p <;> rfl

theorem Frame.region_closing (d : Direction) (f : Frame) :
    (f.closing d).record.region = some f.start.number := by
  cases d <;> rfl

/-- All events that a completed region has of its own name the region. -/
theorem Outline.region_record {o : Outline} {r : Record} (h : r ∈ o.events.map Event.record) :
    r.region = some o.frame.start.number := by
  simp only [Outline.events, List.map_cons, List.map_append, List.map_map, List.mem_cons,
    List.mem_append, List.mem_map, Function.comp_apply] at h
  rcases h with rfl | rfl | ⟨s, -, rfl⟩ | ⟨s, -, rfl⟩ <;> rfl

/-- **The own events of a completed region are all different**, because its branches start
and end at different nodes. -/
theorem Outline.nodup_records (o : Outline) (hfirsts : (o.spans.map fun s => s.first.number).Nodup)
    (hlasts : (o.spans.map fun s => s.last.number).Nodup) :
    (o.events.map Event.record).Nodup := by
  have hstarts : (o.spans.map fun s =>
      Record.branchStart o.frame.start.number s.first.number).Nodup := by
    have hmap := hfirsts.map (f := Record.branchStart o.frame.start.number)
      fun a b h => by simpa [Record.branchStart] using h
    rwa [List.map_map] at hmap
  have hends : (o.spans.map fun s =>
      Record.branchEnd o.frame.start.number s.last.number).Nodup := by
    have hmap := hlasts.map (f := Record.branchEnd o.frame.start.number)
      fun a b h => by simpa [Record.branchEnd] using h
    rwa [List.map_map] at hmap
  have hevents : o.events.map Event.record =
      Record.parallelStart o.frame.start.number o.frame.announced.number ::
        Record.parallelEnd o.frame.start.number o.frame.last.number ::
          (o.spans.map (fun s => Record.branchStart o.frame.start.number s.first.number) ++
            o.spans.map fun s => Record.branchEnd o.frame.start.number s.last.number) := by
    simp [Outline.events, Event.parallelStart, Event.parallelEnd, Event.branchStart,
      Event.branchEnd, Function.comp_def]
  -- events of different kinds are different, and those of one kind by what is assumed
  rw [hevents, List.nodup_cons, List.nodup_cons, List.nodup_append']
  refine ⟨?_, ?_, hstarts, hends, ?_⟩
  · simp [Record.parallelStart, Record.parallelEnd, Record.branchStart, Record.branchEnd]
  · simp [Record.parallelEnd, Record.branchStart, Record.branchEnd]
  · intro r hr hr'
    obtain ⟨s, -, rfl⟩ := List.mem_map.mp hr
    obtain ⟨s', -, h⟩ := List.mem_map.mp hr'
    exact Kind.noConfusion (congrArg Record.kind h)

/-- **No record of the traversal of a well-formed execution comes twice.** -/
theorem WellFormed.nodup_records {e : Execution} (h : WellFormed e) (d : Direction) :
    (records d e).Nodup := by
  obtain ⟨houtlines, hframes, hdisjoint⟩ := List.nodup_append'.mp h.starts
  rw [records, ((traversal_perm d e).map Event.record).nodup_iff]
  simp only [List.map_append, List.map_map, List.map_flatMap]
  rw [List.nodup_append', List.nodup_append']
  refine ⟨⟨h.plains, ?_, ?_⟩, ?_, ?_⟩
  · -- an event of two completed regions would name the start of both
    rw [List.nodup_flatMap]
    refine ⟨fun o ho => o.nodup_records (h.firsts o ho) (h.lasts o ho), ?_⟩
    refine (List.pairwise_map.mp houtlines).imp fun hne r hr hr' => hne ?_
    have hregion := (Outline.region_record hr).symm.trans (Outline.region_record hr')
    exact Option.some.inj hregion
  · -- an event that is about no region names none
    intro r hr hr'
    obtain ⟨p, -, rfl⟩ := List.mem_map.mp hr
    obtain ⟨o, -, ho⟩ := List.mem_flatMap.mp hr'
    have hregion := (Plain.region_record p).symm.trans (Outline.region_record ho)
    exact absurd hregion (by simp)
  · refine List.Nodup.of_map Record.region ?_
    have hmap := hframes.map (f := some) fun a b hab => Option.some.inj hab
    simpa [List.map_map, Function.comp_def, Frame.region_closing] using hmap
  · -- nor does a running region share its start with a completed one
    intro r hr hr'
    obtain ⟨f, hf, rfl⟩ := List.mem_map.mp hr'
    have hclosing : (f.closing d).record.region = some f.start.number := f.region_closing d
    rcases List.mem_append.mp hr with hr | hr
    · obtain ⟨p, -, hp⟩ := List.mem_map.mp hr
      have hregion := (congrArg Record.region hp).symm.trans p.region_record
      exact absurd (hclosing.symm.trans hregion) (by simp)
    · obtain ⟨o, ho, hmem⟩ := List.mem_flatMap.mp hr
      have hregion := hclosing.symm.trans (Outline.region_record hmem)
      refine hdisjoint (List.mem_map_of_mem ho) ?_
      rw [← Option.some.inj hregion]
      exact List.mem_map_of_mem hf

/-! ### The checks together -/

/-- A traversal is recorded whole, as every id in it can be read. -/
theorem run_traversal (d : Direction) (e : Execution) :
    Recorder.fresh.run ((e.traversal d).map Event.callback) =
      (⟨.ofList (records d e), none⟩, List.replicate (e.traversal d).length (.ok ())) := by
  have hreads : ((e.traversal d).map Event.callback).map Callback.record =
      (records d e).map Except.ok := by
    simp only [records, List.map_map]
    exact List.map_congr_left fun x _ => x.reads
  rw [Recorder.run_of_records rfl hreads, List.length_map]
  have hlog : Recorder.fresh.log.append (records d e) = .ofList (records d e) :=
    Log.ext_toList (by simp [Recorder.fresh])
  rw [hlog]

/-- **No false alarm.** The traversal of a well-formed execution, in either direction, is
recorded without a fault, and the log passes every check. -/
theorem audit_traversal (d : Direction) (e : Execution) (h : WellFormed e) :
    let (recorder, answers) := Recorder.fresh.run ((e.traversal d).map Event.callback)
    (∀ answer ∈ answers, answer = .ok ()) ∧
      ∃ log, recorder.finished = .ok log ∧
        Report.audit d log.toList = ⟨(e.traversal d).length, []⟩ := by
  rw [run_traversal]
  refine ⟨fun answer hanswer => List.eq_of_mem_replicate hanswer, _, rfl, ?_⟩
  have hduplicates : Duplicates.check (records d e) = .ok () :=
    Duplicates.check_eq_ok_iff_nodup.mpr (h.nodup_records d)
  have hregions : Regions.check d (records d e) = .ok () :=
    Regions.check_eq_ok_iff_viable.mpr (.accepted (accepted_records d e))
  have hbranches : Branches.check (records d e) = .ok () := by
    refine Branches.check_eq_ok_iff.mpr ⟨fun r hr => ?_, countOf_records d e⟩
    obtain ⟨x, -, rfl⟩ := List.mem_map.mp hr
    exact x.not_orphan
  rw [Log.toList_ofList, Report.audit_eq_of_checks hduplicates hregions hbranches, records,
    List.length_map]

/-! ### An example -/

/-- The finished pipeline of the scripted session, newest node first: region 4 has two
branches, the newer one around region 12. -/
def pipeline : Execution :=
  let node (n : Nat) (h : n < 4294967296 := by decide) : Node := .ofNumber ⟨n, h⟩
  let inner : Block :=
    .region ⟨node 12, node 15, node 13⟩
      (.cons ⟨node 14, node 14⟩ .nil (.cons ⟨node 13, node 13⟩ .nil .nil)) .nil
  let older : Block := .plain (.atom (some (node 5)) (node 7) (some (node 9))) .nil
  [.block (.plain (.chunkEnd (node 16) none) (.plain (.atom (some (node 11)) (node 16) none)
    (.region ⟨node 4, node 11, node 5⟩
      (.cons ⟨node 6, node 10⟩ inner (.cons ⟨node 5, node 9⟩ older .nil))
      (.plain (.atom (some (node 2)) (node 3) (some (node 4)))
        (.plain (.chunkStart (node 2) none) .nil)))))]

example : (traversal .backward pipeline).map Event.callback = Demo.completePass := by
  decide

/-- A region around the pipeline that is still running, its id spelled with a sign and a
leading zero. -/
def openRegion : Stretch :=
  .running ⟨⟨"+01", ⟨1, by decide⟩, by decide⟩, .ofNumber ⟨17, by decide⟩,
    .ofNumber ⟨2, by decide⟩⟩

/-- **The pipeline inside a region that is still running** passes every check. -/
theorem audit_pipeline_in_region :
    WellFormed (pipeline ++ [openRegion]) ∧
      let (recorder, answers) := Recorder.fresh.run
        ((traversal .backward (pipeline ++ [openRegion])).map Event.callback)
      (∀ answer ∈ answers, answer = .ok ()) ∧
        ∃ log, recorder.finished = .ok log ∧ Report.audit .backward log.toList = ⟨18, []⟩ := by
  have h : WellFormed (pipeline ++ [openRegion]) :=
    ⟨by decide, by decide, by decide, by decide⟩
  exact ⟨h, audit_traversal .backward _ h⟩

end ScanAudit.Execution
