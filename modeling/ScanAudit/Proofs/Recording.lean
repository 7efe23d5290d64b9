import ScanAudit.Recorder

/-!
# What a recorder keeps

A recorder that meets no malformed id keeps the record of every callback. A record may
have any of its slots set, whatever its kind, but one that comes from a callback has been
built by the constructor of its kind (`ScanAudit.Record.Shaped`); so it names its region
where its kind is about one.
-/

namespace ScanAudit

/-! ### Records with the layout of their kind -/

/-- **A record with the layout of its kind**, as the seven constructors build it. -/
inductive Record.Shaped : Record → Prop
  | atom (before : Option NodeId) (current : NodeId) (after : Option NodeId) :
      Shaped (.atom before current after)
  | chunkStart (start : NodeId) (before : Option NodeId) : Shaped (.chunkStart start before)
  | chunkEnd (last : NodeId) (after : Option NodeId) : Shaped (.chunkEnd last after)
  | parallelStart (region branch : NodeId) : Shaped (.parallelStart region branch)
  | parallelEnd (region last : NodeId) : Shaped (.parallelEnd region last)
  | branchStart (region first : NodeId) : Shaped (.branchStart region first)
  | branchEnd (region last : NodeId) : Shaped (.branchEnd region last)

/-- A record with the layout of a kind that is about a region names the region. -/
theorem Record.Shaped.exists_region {r : Record} (h : r.Shaped) (hk : r.kind.isParallel) :
    ∃ region, r.region = some region := by
  cases h with
  | atom | chunkStart | chunkEnd => exact absurd hk Bool.false_ne_true
  | parallelStart region | parallelEnd region | branchStart region | branchEnd region =>
    exact ⟨region, rfl⟩

theorem bind_eq_ok_iff {α β : Type} {x : Except MalformedId α} {f : α → Except MalformedId β}
    {b : β} : (x >>= f) = .ok b ↔ ∃ a, x = .ok a ∧ f a = .ok b := by
  cases x <;> simp [bind, Except.bind]

/-- **The record of a callback has the layout of its kind.** -/
theorem Callback.shaped_record {c : Callback} {r : Record} (h : c.record = .ok r) :
    r.Shaped := by
  cases c with
  | atom before current after =>
    obtain ⟨b, -, h⟩ := bind_eq_ok_iff.mp h
    obtain ⟨n, -, h⟩ := bind_eq_ok_iff.mp h
    obtain ⟨a, -, h⟩ := bind_eq_ok_iff.mp h
    obtain rfl := Except.ok.inj h
    exact .atom b n a
  | chunkStart start before =>
    obtain ⟨s, -, h⟩ := bind_eq_ok_iff.mp h
    obtain ⟨b, -, h⟩ := bind_eq_ok_iff.mp h
    obtain rfl := Except.ok.inj h
    exact .chunkStart s b
  | chunkEnd last after =>
    obtain ⟨l, -, h⟩ := bind_eq_ok_iff.mp h
    obtain ⟨a, -, h⟩ := bind_eq_ok_iff.mp h
    obtain rfl := Except.ok.inj h
    exact .chunkEnd l a
  | parallelStart region branch =>
    obtain ⟨s, -, h⟩ := bind_eq_ok_iff.mp h
    obtain ⟨b, -, h⟩ := bind_eq_ok_iff.mp h
    obtain rfl := Except.ok.inj h
    exact .parallelStart s b
  | parallelEnd region last =>
    obtain ⟨s, -, h⟩ := bind_eq_ok_iff.mp h
    obtain ⟨l, -, h⟩ := bind_eq_ok_iff.mp h
    obtain rfl := Except.ok.inj h
    exact .parallelEnd s l
  | branchStart region first =>
    obtain ⟨s, -, h⟩ := bind_eq_ok_iff.mp h
    obtain ⟨f, -, h⟩ := bind_eq_ok_iff.mp h
    obtain rfl := Except.ok.inj h
    exact .branchStart s f
  | branchEnd region last =>
    obtain ⟨s, -, h⟩ := bind_eq_ok_iff.mp h
    obtain ⟨l, -, h⟩ := bind_eq_ok_iff.mp h
    obtain rfl := Except.ok.inj h
    exact .branchEnd s l

/-! ### Runs without a malformed id -/

/-- **A run of readable callbacks is recorded whole**: every callback is accepted, and the
log grows by their records in order. -/
theorem Recorder.run_of_records {r : Recorder} (hr : r.failure = none) {cs : List Callback}
    {records : List Record} (h : cs.map Callback.record = records.map Except.ok) :
    r.run cs = (⟨r.log.append records, none⟩, List.replicate cs.length (.ok ())) := by
  induction cs generalizing r records with
  | nil =>
    obtain rfl : records = [] := by simpa using h
    cases r with
    | mk log failure =>
      obtain rfl : failure = none := hr
      simp [run, Log.append]
  | cons c cs ih =>
    cases records with
    | nil => exact absurd h (by simp)
    | cons record records =>
      obtain ⟨hc, hcs⟩ : c.record = .ok record ∧
          cs.map Callback.record = records.map Except.ok := by simpa using h
      have hlog : (r.log.push record).append records = r.log.append (record :: records) :=
        Log.ext_toList (by simp)
      have hrest := ih (r := { r with log := r.log.push record }) hr hcs
      simp only [run, step_of_record hr hc, hrest, hlog]
      rfl

end ScanAudit
