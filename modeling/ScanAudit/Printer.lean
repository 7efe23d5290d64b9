import ScanAudit.Answer
import ScanAudit.Callback
import ScanAudit.Direction
import ScanAudit.Sink

/-!
# The printer

The printer writes one line per callback, with the ids as they arrived, and indents it
by two blanks for every region that is open around it. Which event opens a region
follows from the direction of the scan.

The line of an event that closes a region stands at the level of the line that opened
it, so the depth is lowered before that line is written, and it stays lowered if the
write fails. The depth is raised only after the line of an opening event has been written in
full. A closing event with no region open leaves the depth at zero.

A margin may be at most `ScanAudit.Printer.widestMargin` blanks wide. A line that needs a
wider one is not a failure after which the pass could go on: it stops the program, before
anything of the line is written.
-/

namespace ScanAudit

/-- **A printer**: the direction of the scan it prints, the number of open regions, and
where the lines go. -/
structure Printer where
  /-- The direction of the scan. -/
  direction : Direction
  /-- How many regions are open. -/
  depth : Nat
  /-- Where the lines go. -/
  sink : Sink

/-- **What can happen to a printer**, and to whatever else listens: a callback of the scan, or
new room for what is printed. -/
inductive Cue
  /-- A callback of the scan. -/
  | call (c : Callback)
  /-- The room of every printer's sink is set anew. -/
  | allow (room : Option Nat)
deriving DecidableEq

namespace Printer

/-- A printer at the start of a pass. -/
def fresh (direction : Direction) (sink : Sink) : Printer :=
  ⟨direction, 0, sink⟩

/-- **The depth at which the line of an event stands**, `depth` regions being open: a
closing event stands one level below. -/
def lineDepth (d : Direction) (depth : Nat) (k : Kind) : Nat :=
  match d.role k with
  | .closes => depth - 1
  | _ => depth

/-- **The depth after an event** whose line was written in full, `depth` regions being
open before it. -/
def depthAfter (d : Direction) (depth : Nat) (k : Kind) : Nat :=
  match d.role k with
  | .opens => depth + 1
  | _ => lineDepth d depth k

/-- The whole line of a callback at a given depth, with its margin and its end. -/
def lineAt (depth : Nat) (c : Callback) : String :=
  Layout.blanks (2 * depth) ++ c.line ++ "\n"

/-- The widest margin a line can have, in blanks. -/
def widestMargin : Nat :=
  65535

/-- What the program says when a margin is too wide. -/
def stopMessage : String :=
  "Formatting argument out of range"

/-- **One callback** printed, and whether all of its line was written. There may be no margin
for the line, and then the program stops. -/
def step : Printer → Callback → Printer × Answer WriteError
  | ⟨d, depth, sink⟩, c =>
    let level := lineDepth d depth c.kind
    if widestMargin < 2 * level then (⟨d, level, sink⟩, .stopped)
    else
      match sink.write (lineAt level c) with
      | (sink', .ok ()) => (⟨d, depthAfter d depth c.kind, sink'⟩, .accepted)
      | (sink', .error e) => (⟨d, level, sink'⟩, .refused e)

/-- The printer with the room of its sink set anew. -/
def allow (p : Printer) (room : Option Nat) : Printer :=
  { p with sink := p.sink.allow room }

/-- One cue; new room is never refused. -/
def perform (p : Printer) : Cue → Printer × Answer WriteError
  | .call c => p.step c
  | .allow room => (p.allow room, .accepted)

/-- **A run of callbacks**, going on whether their lines could be written or not, up to a line
without a margin. -/
def run (p : Printer) (cs : List Callback) : Printer × List (Answer WriteError) :=
  runWith step p cs

/-! ### One callback -/

variable {p : Printer} {c : Callback}

/-- **The level of the line of a callback** in the state of the printer. -/
def level (p : Printer) (c : Callback) : Nat :=
  lineDepth p.direction p.depth c.kind

/-- **A line without a margin** stops the program, and nothing of it is written. -/
theorem step_of_lt (h : widestMargin < 2 * p.level c) :
    p.step c = (⟨p.direction, p.level c, p.sink⟩, .stopped) :=
  if_pos h

/-- A callback whose line is written in full moves the printer on. -/
theorem step_of_written (h : 2 * p.level c ≤ widestMargin) {sink : Sink}
    (hwrite : p.sink.write (lineAt (p.level c) c) = (sink, .ok ())) :
    p.step c = (⟨p.direction, depthAfter p.direction p.depth c.kind, sink⟩, .accepted) := by
  have hstep : p.step c = _ := if_neg (Nat.not_lt.mpr h)
  rw [hstep]
  exact hwrite ▸ rfl

/-- A callback whose line is not written in full leaves the printer at the level of the
line. -/
theorem step_of_unwritten (h : 2 * p.level c ≤ widestMargin) {sink : Sink} {e : WriteError}
    (hwrite : p.sink.write (lineAt (p.level c) c) = (sink, .error e)) :
    p.step c = (⟨p.direction, p.level c, sink⟩, .refused e) := by
  have hstep : p.step c = _ := if_neg (Nat.not_lt.mpr h)
  rw [hstep]
  exact hwrite ▸ rfl

/-- **What a callback does**: there is no margin for its line, or the line is written in full,
or it is not. -/
theorem step_cases (p : Printer) (c : Callback) :
    widestMargin < 2 * p.level c ∧ p.step c = (⟨p.direction, p.level c, p.sink⟩, .stopped) ∨
    2 * p.level c ≤ widestMargin ∧
      ((∃ sink, p.sink.write (lineAt (p.level c) c) = (sink, .ok ()) ∧
        p.step c = (⟨p.direction, depthAfter p.direction p.depth c.kind, sink⟩, .accepted)) ∨
      ∃ sink e, p.sink.write (lineAt (p.level c) c) = (sink, .error e) ∧
        p.step c = (⟨p.direction, p.level c, sink⟩, .refused e)) := by
  rcases Nat.lt_or_ge widestMargin (2 * p.level c) with hlt | hle
  · exact Or.inl ⟨hlt, step_of_lt hlt⟩
  · refine Or.inr ⟨hle, ?_⟩
    rcases h : p.sink.write (lineAt (p.level c) c) with ⟨sink, e | ⟨⟩⟩
    · exact Or.inr ⟨sink, e, rfl, step_of_unwritten hle h⟩
    · exact Or.inl ⟨sink, rfl, step_of_written hle h⟩

/-- **The margin alone decides whether a callback stops the program.** -/
theorem step_eq_stopped_iff : (p.step c).2 = .stopped ↔ widestMargin < 2 * p.level c := by
  obtain ⟨hlt, hstep⟩ | ⟨hle, ⟨sink, -, hstep⟩ | ⟨sink, e, -, hstep⟩⟩ := p.step_cases c
  · simp [hstep, hlt]
  · simp [hstep, hle]
  · simp [hstep, hle]

theorem step_ne_stopped_iff : (p.step c).2 ≠ .stopped ↔ 2 * p.level c ≤ widestMargin := by
  rw [Ne, step_eq_stopped_iff, Nat.not_lt]

theorem direction_step (p : Printer) (c : Callback) : (p.step c).1.direction = p.direction := by
  obtain ⟨-, hstep⟩ | ⟨-, ⟨sink, -, hstep⟩ | ⟨sink, e, -, hstep⟩⟩ := p.step_cases c <;> rw [hstep]

end Printer

end ScanAudit
