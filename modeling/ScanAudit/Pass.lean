import ScanAudit.Visitor

/-!
# Printed and recorded passes

A pass that is followed by a reader and checked afterwards is heard by a printer first
and by a recorder second. A callback the printer has put down is thus the last printed
line even if the recorder then refuses it. The pass ends at the first fault, and it is lost
where the printer finds no margin for a line.

This is the tee of the two leaves, kept with the types of both; the two theorems of this
module say so, for one callback and for a whole pass.
-/

namespace ScanAudit

/-- **A pass that is printed and recorded.** -/
structure Pass where
  /-- The printer, which hears each callback first. -/
  printer : Printer
  /-- The recorder, which hears what could be printed. -/
  recorder : Recorder

namespace Pass

/-- The start of a pass in a direction, printed to a sink without limit. -/
def fresh (d : Direction) : Pass :=
  ⟨.fresh d .unlimited, .fresh⟩

/-- The pass as a visitor. -/
def visitor (p : Pass) : Visitor :=
  .tee (.leaf (.printer p.printer)) (.leaf (.recorder p.recorder))

/-- **One callback** of a pass, and whether it was both printed and recorded. -/
def step (p : Pass) (c : Callback) : Pass × Answer Fault :=
  let ⟨printer, recorder⟩ := p
  match printer.step c with
  | (printer, .accepted) =>
    let (recorder, result) := recorder.step c
    (⟨printer, recorder⟩,
      (Answer.ofExcept result).map fun e => .second (.leaf (.malformed e)))
  | (printer, answer) => (⟨printer, recorder⟩, answer.map fun e => .first (.leaf (.write e)))

/-- **A pass up to its first fault**: where it ends, and the number of callbacks accepted
before the fault together with the fault, if there is one. -/
def replay (p : Pass) (cs : List Callback) : Pass × Answer (Nat × Fault) :=
  replayWith step p cs

/-- **A callback of a pass is a callback of the tee.** -/
theorem visitor_step (p : Pass) (c : Callback) :
    p.visitor.step c = ((p.step c).1.visitor, (p.step c).2) := by
  simp only [visitor, step, Visitor.step, Leaf.step]
  rcases p.printer.step c with ⟨printer, _ | _ | _⟩
  · rcases p.recorder.step c with ⟨recorder, _ | _⟩ <;> rfl
  · rfl
  · rfl

/-- **A pass is the pass of the tee**, up to the first fault of either. -/
theorem visitor_replay (p : Pass) (cs : List Callback) :
    p.visitor.replay cs = ((p.replay cs).1.visitor, (p.replay cs).2) :=
  replayWith_of_step visitor_step p cs

end Pass

end ScanAudit
