/-!
# Answers

What comes in one by one is answered one by one. Most of it is accepted. It may be refused, for
a reason, and then the next may come. And it may stop the program: then there is no next.

So there are two ways to take in a list. A *run* goes on after refusals, and only a stop ends it
before its time (`ScanAudit.runWith`); it leaves a state and the answers, of which none but the
last is a stop. A *replay* gives up at the first refusal already (`ScanAudit.replayWith`).

Both are defined for any step, and what holds of all runs is proved here once: a run of two
stretches is one run after the other as long as the first has not stopped, and nothing comes
after a stop.
-/

namespace ScanAudit

/-- **How something that comes in is answered**, with reasons for a refusal. -/
inductive Answer (ε : Type)
  /-- It is accepted. -/
  | accepted
  /-- It is refused, and more may come. -/
  | refused (reason : ε)
  /-- It stops the program, and nothing more comes. -/
  | stopped
deriving DecidableEq

namespace Answer

variable {ε ε' : Type}

/-- The answer with its reason told in other terms. -/
def map (f : ε → ε') : Answer ε → Answer ε'
  | accepted => accepted
  | refused reason => refused (f reason)
  | stopped => stopped

/-- The answer of a step that never stops the program. -/
def ofExcept : Except ε Unit → Answer ε
  | .ok () => accepted
  | .error reason => refused reason

@[simp] theorem map_eq_accepted_iff {f : ε → ε'} {a : Answer ε} :
    a.map f = accepted ↔ a = accepted := by
  cases a <;> simp [map]

@[simp] theorem map_eq_stopped_iff {f : ε → ε'} {a : Answer ε} :
    a.map f = stopped ↔ a = stopped := by
  cases a <;> simp [map]

theorem map_map {ε'' : Type} (f : ε → ε') (g : ε' → ε'') (a : Answer ε) :
    (a.map f).map g = a.map (g ∘ f) := by
  cases a <;> rfl

end Answer

/-! ### Runs and replays -/

section Runs

variable {σ ι ε : Type} (step : σ → ι → σ × Answer ε)

/-- **A run**, which goes on after refusals and ends where it is stopped: the state at the end,
and the answers. -/
def runWith (s : σ) : List ι → σ × List (Answer ε)
  | [] => (s, [])
  | x :: xs =>
    match step s x with
    | (s', .stopped) => (s', [.stopped])
    | (s', answer) =>
      let (last, answers) := runWith s' xs
      (last, answer :: answers)

/-- **A replay**, which gives up at the first refusal: the state at the end, and what ended it. A
refusal comes with the number of those accepted before it. -/
def replayWith (s : σ) : List ι → σ × Answer (Nat × ε)
  | [] => (s, .accepted)
  | x :: xs =>
    match step s x with
    | (s', .accepted) =>
      let (last, answer) := replayWith s' xs
      (last, answer.map fun x => (x.1 + 1, x.2))
    | (s', answer) => (s', answer.map fun reason => (0, reason))

variable {step} {s : σ} {x : ι} {xs : List ι} {j : Nat}

/-! ### Single steps -/

@[simp] theorem runWith_nil : runWith step s [] = (s, []) := rfl

/-- A stop ends the run. -/
theorem runWith_cons_of_stopped (h : (step s x).2 = .stopped) (xs : List ι) :
    runWith step s (x :: xs) = ((step s x).1, [.stopped]) := by
  have hstep : step s x = ((step s x).1, .stopped) := Prod.ext rfl h
  rw [runWith, hstep]

/-- Anything else is followed by the rest of the run. -/
theorem runWith_cons (h : (step s x).2 ≠ .stopped) (xs : List ι) :
    runWith step s (x :: xs) =
      ((runWith step (step s x).1 xs).1, (step s x).2 :: (runWith step (step s x).1 xs).2) := by
  rw [runWith]
  rcases hstep : step s x with ⟨s', _ | reason | _⟩
  · rfl
  · rfl
  · exact absurd (congrArg Prod.snd hstep) h

@[simp] theorem runWith_singleton : runWith step s [x] = ((step s x).1, [(step s x).2]) := by
  by_cases h : (step s x).2 = .stopped
  · rw [runWith_cons_of_stopped h, h]
  · rw [runWith_cons h, runWith_nil]

/-- A run that is not stopped has not been stopped at its first step. -/
theorem stopped_notMem_cons_iff :
    .stopped ∉ (runWith step s (x :: xs)).2 ↔
      (step s x).2 ≠ .stopped ∧ .stopped ∉ (runWith step (step s x).1 xs).2 := by
  by_cases h : (step s x).2 = .stopped
  · simp [runWith_cons_of_stopped h, h]
  · simp [runWith_cons h, h, eq_comm]

/-- **What every step keeps, a run keeps.** -/
theorem runWith_keeps {P : σ → Prop} (hstep : ∀ s x, P s → P (step s x).1) (hs : P s)
    (xs : List ι) : P (runWith step s xs).1 := by
  induction xs generalizing s with
  | nil => exact hs
  | cons x xs ih =>
    by_cases h : (step s x).2 = .stopped
    · rw [runWith_cons_of_stopped h]
      exact hstep s x hs
    · rw [runWith_cons h]
      exact ih (hstep s x hs)

/-- **Steps that go together make runs that go together**, be the reasons told in other terms. -/
theorem runWith_of_step {τ ε' : Type} {step' : τ → ι → τ × Answer ε'} {f : σ → τ} {g : ε → ε'}
    (hstep : ∀ s x, step' (f s) x = (f (step s x).1, (step s x).2.map g)) (s : σ) (xs : List ι) :
    runWith step' (f s) xs = (f (runWith step s xs).1, (runWith step s xs).2.map (.map g)) := by
  induction xs generalizing s with
  | nil => rfl
  | cons x xs ih =>
    have hanswer : (step' (f s) x).2 = (step s x).2.map g := congrArg Prod.snd (hstep s x)
    by_cases h : (step s x).2 = .stopped
    · rw [runWith_cons_of_stopped h, runWith_cons_of_stopped (by rw [hanswer, h]; rfl), hstep]
      rfl
    · rw [runWith_cons h, runWith_cons (by rwa [hanswer, Ne, Answer.map_eq_stopped_iff]), hstep, ih]
      rfl

/-! ### Stretches of a run -/

/-- **A run of two stretches** is a run of the first followed by a run of the second, unless the
first is stopped. -/
theorem runWith_append (h : .stopped ∉ (runWith step s xs).2) (ys : List ι) :
    runWith step s (xs ++ ys) =
      ((runWith step (runWith step s xs).1 ys).1,
        (runWith step s xs).2 ++ (runWith step (runWith step s xs).1 ys).2) := by
  induction xs generalizing s with
  | nil => rfl
  | cons x xs ih =>
    obtain ⟨hfirst, hrest⟩ := stopped_notMem_cons_iff.mp h
    rw [List.cons_append, runWith_cons hfirst, runWith_cons hfirst, ih hrest, List.cons_append]

/-- **Nothing comes after a stop.** -/
theorem runWith_append_of_stopped (h : .stopped ∈ (runWith step s xs).2) (ys : List ι) :
    runWith step s (xs ++ ys) = runWith step s xs := by
  induction xs generalizing s with
  | nil => exact absurd h List.not_mem_nil
  | cons x xs ih =>
    by_cases hfirst : (step s x).2 = .stopped
    · rw [List.cons_append, runWith_cons_of_stopped hfirst, runWith_cons_of_stopped hfirst]
    · rw [runWith_cons hfirst] at h
      have hrest := (List.mem_cons.mp h).resolve_left (Ne.symm hfirst)
      rw [List.cons_append, runWith_cons hfirst, runWith_cons hfirst, ih hrest]

/-- The answers to the beginning of a list are the first of all answers. -/
theorem answers_take (s : σ) (xs : List ι) (k : Nat) :
    (runWith step s (xs.take k)).2 = (runWith step s xs).2.take k := by
  induction xs generalizing s k with
  | nil => simp
  | cons x xs ih =>
    cases k with
    | zero => rfl
    | succ k =>
      by_cases h : (step s x).2 = .stopped
      · simp [runWith_cons_of_stopped h]
      · simp [runWith_cons h, ih]

/-- There is at most one answer to each of what comes in. -/
theorem length_answers_le (s : σ) (xs : List ι) : (runWith step s xs).2.length ≤ xs.length := by
  have htake : (runWith step s (xs.take xs.length)).2 = _ := answers_take s xs xs.length
  rw [List.take_length] at htake
  have hlength := congrArg List.length htake
  rw [List.length_take] at hlength
  omega

/-- **What is answered comes before any stop**, or is the stop itself. -/
theorem stopped_notMem_take (h : j < (runWith step s xs).2.length) :
    .stopped ∉ (runWith step s (xs.take j)).2 := by
  intro hstop
  -- else there is no answer after the first `j`
  have hsame := runWith_append_of_stopped hstop (xs.drop j)
  rw [List.take_append_drop] at hsame
  have hlength : (runWith step s (xs.take j)).2.length ≤ _ := length_answers_le s (xs.take j)
  rw [← hsame, List.length_take] at hlength
  omega

/-- A run that is not stopped answers everything. -/
theorem length_answers (h : .stopped ∉ (runWith step s xs).2) :
    (runWith step s xs).2.length = xs.length := by
  induction xs generalizing s with
  | nil => rfl
  | cons x xs ih =>
    obtain ⟨hfirst, hrest⟩ := stopped_notMem_cons_iff.mp h
    rw [runWith_cons hfirst, List.length_cons, ih hrest, List.length_cons]

/-- **One step more**, from a run that has not been stopped. -/
theorem runWith_take_succ (h : .stopped ∉ (runWith step s (xs.take j)).2) (hx : xs[j]? = some x) :
    runWith step s (xs.take (j + 1)) =
      ((step (runWith step s (xs.take j)).1 x).1,
        (runWith step s (xs.take j)).2 ++ [(step (runWith step s (xs.take j)).1 x).2]) := by
  rw [List.take_add_one, hx, Option.toList_some, runWith_append h, runWith_singleton]

/-- **An answer of a run** is given in the state that was reached before it. -/
theorem getElem?_answers (h : .stopped ∉ (runWith step s (xs.take j)).2) (hx : xs[j]? = some x) :
    (runWith step s xs).2[j]? = some (step (runWith step s (xs.take j)).1 x).2 := by
  have hj : j < xs.length := (List.getElem?_eq_some_iff.mp hx).1
  have hlength : (runWith step s (xs.take j)).2.length = j := by
    rw [length_answers h, List.length_take, Nat.min_eq_left (Nat.le_of_lt hj)]
  have hbefore := congrArg (fun run => run.2[j]?) (runWith_take_succ h hx)
  simp only at hbefore
  rw [answers_take, List.getElem?_take_of_lt (Nat.lt_succ_self j),
    List.getElem?_append_right (Nat.le_of_eq hlength), hlength] at hbefore
  simpa using hbefore

/-- **A run is stopped at one step**, which is not taken in what has been stopped before, and
ends there. -/
theorem runWith_of_stop (h : .stopped ∉ (runWith step s (xs.take j)).2) (hx : xs[j]? = some x)
    (hstop : (step (runWith step s (xs.take j)).1 x).2 = .stopped) :
    runWith step s xs = ((step (runWith step s (xs.take j)).1 x).1,
      (runWith step s (xs.take j)).2 ++ [.stopped]) := by
  have hsucc := runWith_take_succ h hx
  rw [hstop] at hsucc
  have hmem : .stopped ∈ (runWith step s (xs.take (j + 1))).2 := by
    rw [hsucc]
    exact List.mem_append_right _ (List.mem_singleton.mpr rfl)
  have hall := runWith_append_of_stopped hmem (xs.drop (j + 1))
  rw [List.take_append_drop] at hall
  rw [hall, hsucc]

/-! ### Replays -/

/-- What is accepted is followed by the rest of the replay. -/
theorem replayWith_cons_of_accepted (h : (step s x).2 = .accepted) (xs : List ι) :
    replayWith step s (x :: xs) = ((replayWith step (step s x).1 xs).1,
      (replayWith step (step s x).1 xs).2.map fun x => (x.1 + 1, x.2)) := by
  have hstep : step s x = ((step s x).1, .accepted) := Prod.ext rfl h
  rw [replayWith, hstep]

/-- Anything else ends the replay. -/
theorem replayWith_cons (h : (step s x).2 ≠ .accepted) (xs : List ι) :
    replayWith step s (x :: xs) = ((step s x).1, (step s x).2.map fun reason => (0, reason)) := by
  rw [replayWith]
  rcases hstep : step s x with ⟨s', _ | reason | _⟩
  · exact absurd (congrArg Prod.snd hstep) h
  · rfl
  · rfl

/-- **Steps that go together make replays that go together.** -/
theorem replayWith_of_step {τ : Type} {step' : τ → ι → τ × Answer ε} {f : σ → τ}
    (hstep : ∀ s x, step' (f s) x = (f (step s x).1, (step s x).2)) (s : σ) (xs : List ι) :
    replayWith step' (f s) xs = (f (replayWith step s xs).1, (replayWith step s xs).2) := by
  induction xs generalizing s with
  | nil => rfl
  | cons x xs ih =>
    have hanswer : (step' (f s) x).2 = (step s x).2 := congrArg Prod.snd (hstep s x)
    by_cases h : (step s x).2 = .accepted
    · rw [replayWith_cons_of_accepted h, replayWith_cons_of_accepted (hanswer.trans h), hstep,
        ih]
    · rw [replayWith_cons h, replayWith_cons (hanswer ▸ h), hstep]

end Runs

end ScanAudit
