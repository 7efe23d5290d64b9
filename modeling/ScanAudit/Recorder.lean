import ScanAudit.Callback
import ScanAudit.Log

/-!
# The recorder

The recorder turns callbacks into a log. It judges nothing: a callback with readable
ids adds its record at the end of the log. The first callback with a malformed id ends
the recording for good. It adds nothing itself, and every later callback is refused with
the same malformed id, well formed or not, so that a log is either the whole pass or a
known beginning of it.
-/

namespace ScanAudit

/-- **A recorder**: the log so far, and the malformed id that ended it, if one did. -/
structure Recorder where
  /-- The records of the callbacks accepted so far. -/
  log : Log
  /-- The first malformed id, once there was one. -/
  failure : Option MalformedId
deriving DecidableEq

namespace Recorder

/-- A recorder that has not been called. -/
def fresh : Recorder :=
  ⟨.empty, none⟩

/-- **One callback** taken by the recorder, and whether it was accepted. -/
def step (r : Recorder) (c : Callback) : Recorder × Except MalformedId Unit :=
  match r.failure with
  | some e => (r, .error e)
  | none =>
    match c.record with
    | .ok record => ({ r with log := r.log.push record }, .ok ())
    | .error e => ({ r with failure := some e }, .error e)

/-- **A run of callbacks**, going on whether they are accepted or not: the recorder at
the end, and what each callback was answered. -/
def run (r : Recorder) : List Callback → Recorder × List (Except MalformedId Unit)
  | [] => (r, [])
  | c :: cs =>
    let (r', answer) := r.step c
    let (last, answers) := r'.run cs
    (last, answer :: answers)

/-- A failed recorder stays as it is and repeats its failure. -/
theorem step_of_failure {r : Recorder} {e : MalformedId} (h : r.failure = some e)
    (c : Callback) : r.step c = (r, .error e) := by
  simp [step, h]

/-- A recorder that has not failed adds the record of a readable callback. -/
theorem step_of_record {r : Recorder} (h : r.failure = none) {c : Callback} {record : Record}
    (hc : c.record = .ok record) :
    r.step c = ({ r with log := r.log.push record }, .ok ()) := by
  simp [step, h, hc]

/-- A recorder that has not failed is ended by a callback with a malformed id. -/
theorem step_of_malformed {r : Recorder} (h : r.failure = none) {c : Callback}
    {e : MalformedId} (hc : c.record = .error e) :
    r.step c = ({ r with failure := some e }, .error e) := by
  simp [step, h, hc]

/-- **A run of two stretches** is a run of the first followed by a run of the second. -/
theorem run_append (r : Recorder) (cs ds : List Callback) :
    r.run (cs ++ ds) =
      (((r.run cs).1.run ds).1, (r.run cs).2 ++ ((r.run cs).1.run ds).2) := by
  induction cs generalizing r with
  | nil => rfl
  | cons c cs ih => simp [run, ih]

/-- The log of a pass that was recorded without failure, else the id that ended it. -/
def finished (r : Recorder) : Except MalformedId Log :=
  match r.failure with
  | none => .ok r.log
  | some e => .error e

end Recorder

end ScanAudit
