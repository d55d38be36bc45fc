import Framecast.Machine.State

/-!
# Activities

An activity is a program on a machine that can wait: for a condition on the machine, for a moment,
or for whichever comes first. Between two waits it runs alone. What an activity has come to is a
`Run`: done, or paused with the way to carry on.

Loops are bounded by a number of steps that every activity is given; an activity that uses them up
is `exhausted`.
-/

namespace Framecast

/-- What an activity waits for: a condition, but no longer than until a moment. -/
structure Wait where
  ready : Machine → Bool
  deadline : Option Duration := none

namespace Wait

/-- Whether the time for something is over, if it has an end at all. -/
def isPast (now : Duration) : Option Duration → Bool
  | some deadline => deadline.nanos ≤ now.nanos
  | none => false

/-- Whether a wait ends: what it waits for is there, or its time is over. -/
def isOver (w : Wait) (m : Machine) : Bool :=
  w.ready m || isPast m.now w.deadline

end Wait

/-- What an activity has come to. -/
inductive Run (α : Type) where
  | done (value : α) (machine : Machine)
  | paused (wait : Wait) (machine : Machine) (resume : Machine → Run α)
  | exhausted (machine : Machine)

namespace Run

/-- Go on when a run is done. A run that is paused goes on later. -/
def bind {α β : Type} (r : Run α) (next : α → Machine → Run β) : Run β :=
  match r with
  | .done a m => next a m
  | .paused w m resume => .paused w m fun m => (resume m).bind next
  | .exhausted m => .exhausted m

end Run

/-- A program on a machine that can wait. -/
def Activity (α : Type) : Type :=
  (steps : Nat) → Machine → Run α

namespace Activity

variable {α β σ : Type}

instance : Monad Activity where
  pure a := fun _ m => .done a m
  bind x f := fun steps m => (x steps m).bind fun a m => f a steps m

instance : MonadStateOf Machine Activity where
  get := fun _ m => .done m m
  set m := fun _ _ => .done () m
  modifyGet f := fun _ m => let (a, m) := f m; .done a m

/-- Wait for something, at most up to a time. -/
def await (ready : Machine → Bool) (deadline : Option Duration) : Activity Unit := fun _ m =>
  let wait : Wait := ⟨ready, deadline⟩
  if wait.isOver m then .done () m else .paused wait m fun m => .done () m

/-- Wait until so much time has passed. -/
def sleep (d : Duration) : Activity Unit := fun steps m =>
  await (fun _ => false) (some (m.after d)) steps m

/-- Sleep several times, one after the other. -/
def sleepEach (ds : List Duration) : Activity Unit :=
  ds.forM sleep

/-- Repeat a body on its own state until it has a result, at most so often. -/
def iterateFrom (body : σ → Activity (σ ⊕ α)) : Nat → σ → Machine → Run α
  | 0, _, m => .exhausted m
  | steps + 1, s, m =>
    (body s steps m).bind fun next m =>
      match next with
      | .inl s => iterateFrom body steps s m
      | .inr a => .done a m

/-- Repeat until there is a result, starting with a state. -/
def iterate (body : σ → Activity (σ ⊕ α)) (start : σ) : Activity α := fun steps m =>
  iterateFrom body steps start m

/-- An activity that is given its steps. -/
def withSteps (f : Nat → Activity α) : Activity α := fun steps => f steps steps

/-- An activity that gets nowhere. -/
def stuck : Activity α := fun _ m => .exhausted m

end Activity

end Framecast
