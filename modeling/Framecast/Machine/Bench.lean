import Framecast.Machine.Servers

/-!
# Benches

A bench is a machine with the threads that run on it. Threads take turns: one runs until it waits,
and time passes only when every thread waits; then the clock moves to the nearest deadline. So a
bench always does the same thing, and waiting costs nothing. Those who perform one activity after
another are such a thread: what they do between two waits comes before the turn of a thread that it
wakes.
-/

namespace Framecast

/-- What a thread has come to. The result of a job is of no interest. -/
inductive ThreadState (ρ : Type) where
  | finished (result : Option ρ)
  | waiting (wait : Wait) (resume : Machine → Run (Option ρ))

/-- A machine with its threads. -/
structure Bench (ρ : Type) where
  machine : Machine := {}
  threads : List (Nat × ThreadState ρ) := []
  nextThread : Nat := 1

namespace Bench

variable {ρ α : Type}

/-- Steps that an activity may take. -/
def budget : Nat := 1000000

/-- What a run has come to, with the machine as it left it. -/
def settleRun : Run (Option ρ) → ThreadState ρ × Machine
  | .done result m => (.finished result, m)
  | .paused wait m resume => (.waiting wait resume, m)
  | .exhausted m => (.finished none, m)

/-- Begin a thread and run it until it waits. -/
def begin (activity : Activity (Option ρ)) (b : Bench ρ) : Bench ρ :=
  let (state, m) := settleRun (activity budget b.machine)
  ⟨m, b.threads ++ [(b.nextThread, state)], b.nextThread + 1⟩

/-- Begin the jobs that were asked for. -/
def beginJobs (b : Bench ρ) : Bench ρ :=
  let jobs := b.machine.jobs
  let cleared := { b with machine := { b.machine with jobs := [] } }
  jobs.foldl (fun b job => b.begin (do job.run; return none)) cleared

/-- Let a thread carry on if its wait is over. -/
def resumeThread (m : Machine) : ThreadState ρ → Option (ThreadState ρ × Machine)
  | .waiting wait resume => if wait.isOver m then some (settleRun (resume m)) else none
  | .finished _ => none

/-- Let the first thread go on whose wait is over, if there is one. -/
def resumeFirst (m : Machine) :
    List (Nat × ThreadState ρ) → Option (List (Nat × ThreadState ρ) × Machine)
  | [] => none
  | (id, state) :: rest =>
    match resumeThread m state with
    | some (state, m) => some ((id, state) :: rest, m)
    | none => (resumeFirst m rest).map fun (rest, m) => ((id, state) :: rest, m)

/-- Let threads run until all of them wait. -/
def settleWithin : Nat → Bench ρ → Bench ρ
  | 0, b => b
  | turns + 1, b =>
    let b := b.beginJobs
    match resumeFirst b.machine b.threads with
    | some (threads, m) => settleWithin turns { b with threads := threads, machine := m }
    | none => b

/-- Let threads go on until all of them wait. -/
def settle (b : Bench ρ) : Bench ρ :=
  b.settleWithin budget

/-- Begin a thread; the answer is its number. -/
def fork (activity : Activity ρ) (b : Bench ρ) : Nat × Bench ρ :=
  (b.nextThread, (b.begin (some <$> activity)).settle)

/-- The times at which waits end by themselves. -/
def deadlines (b : Bench ρ) : List Duration :=
  b.threads.filterMap fun (_, state) =>
    match state with
    | .waiting wait _ => wait.deadline
    | .finished _ => none

/-- Move the time on to this, never back. -/
def advanceTo (d : Duration) (b : Bench ρ) : Bench ρ :=
  { b with machine := { b.machine with now := ⟨max b.machine.now.nanos d.nanos⟩ } }

/-- Let time pass until the nearest deadline, one more deadline being given; none if nothing is
waiting for a moment. -/
def advance (own : Option Duration) (b : Bench ρ) : Option (Bench ρ) :=
  match own.toList ++ b.deadlines with
  | [] => none
  | d :: rest => some (b.advanceTo ⟨rest.foldl (fun n e => min n e.nanos) d.nanos⟩)

/-- Run to the end. When nobody can go on, the time moves to the next deadline. -/
def finishRun : Nat → Run α → Bench ρ → Option α × Bench ρ
  | _, .done a m, b => (some a, { b with machine := m })
  | _, .exhausted m, b => (none, { b with machine := m })
  | 0, .paused _ m _, b => (none, { b with machine := m })
  | turns + 1, .paused wait m resume, b =>
    let b := settle { b with machine := m }
    if wait.isOver b.machine then finishRun turns (resume b.machine) b
    else
      match b.advance wait.deadline with
      | some b => finishRun turns (.paused wait b.machine resume) b
      | none => (none, b)

/-- Run an activity to its end; there is no answer if that would take forever. -/
def perform (activity : Activity α) (b : Bench ρ) : Option α × Bench ρ :=
  finishRun budget (activity budget b.machine) b

/-- Wait for a thread, with so many turns to take. -/
def joinWithin (id : Nat) : Nat → Bench ρ → Option ρ × Bench ρ
  | 0, b => (none, b)
  | turns + 1, b =>
    let b := b.settle
    match b.threads.lookup id with
    | some (.finished result) =>
      (result, { b with threads := b.threads.filter (·.1 != id) })
    | none => (none, b)
    | some (.waiting ..) =>
      match b.advance none with
      | some b => joinWithin id turns b
      | none => (none, b)

/-- Wait for a thread and take its result. -/
def join (id : Nat) (b : Bench ρ) : Option ρ × Bench ρ :=
  b.joinWithin id budget

end Bench

end Framecast
