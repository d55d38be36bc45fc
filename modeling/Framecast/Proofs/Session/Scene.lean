import Framecast.Session.Link
import Framecast.Proofs.Stream.Source

/-!
# Scenes

A scene is everything around the reader of a link: the link itself, what each socket brings, what
the end-of-stream handler does, and what others do in between. Others act before any step of the
reader, also while it waits and while the handler runs; nobody but the reader reads from the
sockets. It is noted which sockets were installed, and what the reader read of each generation.

The reader's own program runs on a scene through `Scene.host`. A call that waits for ever, or does
not end in the steps it is given, has no result.
-/

namespace Framecast

/-- One step of somebody else on a link. -/
inductive LinkAct where
  | install (socket : Option SocketId)
  | wake
  | cancel
  | resume
  deriving DecidableEq, Repr

/-- What an act does to a link. -/
def LinkAct.apply : LinkAct → Link → Link
  | install socket, l => l.install socket
  | wake, l => l.wake
  | cancel, l => l.cancel
  | resume, l => l.resume

/-- What several acts do to a link. -/
def LinkAct.applyAll (acts : List LinkAct) (l : Link) : Link :=
  acts.foldl (fun l act => act.apply l) l

/-- What is installed in the course of some acts. -/
def LinkAct.installs (acts : List LinkAct) : List (Option SocketId) :=
  acts.filterMap fun
    | install socket => some socket
    | _ => none

theorem LinkAct.installs_cons (act : LinkAct) (acts : List LinkAct) :
    installs (act :: acts) = installs [act] ++ installs acts := by
  rw [installs, installs, installs, ← List.filterMap_append, List.singleton_append]

/-- Each socket that is installed is a generation more. -/
theorem LinkAct.generation_eq (acts : List LinkAct) (l : Link) :
    (applyAll acts l).generation = l.generation + (installs acts).length := by
  induction acts generalizing l with
  | nil => rfl
  | cons act rest ih =>
    have hrest : (applyAll (act :: rest) l).generation =
        (act.apply l).generation + (installs rest).length := ih (act.apply l)
    rw [hrest, installs_cons, List.length_append]
    cases act with
    | install => exact Nat.add_assoc ..
    | wake | cancel | resume => exact congrArg _ (Nat.zero_add _).symm

/-- No generation is taken back. -/
theorem LinkAct.generation_le (acts : List LinkAct) (l : Link) :
    l.generation ≤ (applyAll acts l).generation := by
  rw [generation_eq]
  exact Nat.le_add_right ..

/-- The surroundings of a reader. -/
structure Scene where
  link : Link := {}
  source : SocketId → Source
  /-- What the handler does each time it runs; when this is used up, nothing. -/
  handler : List (List LinkAct) := []
  /-- What others do before each step of the reader; when this is used up, nothing. -/
  others : List (List LinkAct) := []
  clocks : List Readings := []
  /-- What was installed on the link so far, in order. -/
  installed : List (Option SocketId) := []
  /-- What was read of each generation. -/
  log : Nat → Stretch := fun _ => []

/-- A call that goes on in a scene, if it comes to an end. -/
abbrev Scened := StateT Scene Option

namespace Scene

/-- Somebody does something to the link. -/
def act (acts : List LinkAct) (s : Scene) : Scene :=
  { s with
    link := LinkAct.applyAll acts s.link
    installed := s.installed ++ LinkAct.installs acts }

/-- Others act. -/
def meet (s : Scene) : Scene :=
  match s.others with
  | [] => s
  | acts :: rest => { s.act acts with others := rest }

/-- What a poll finds. -/
def readiness (socket : SocketId) (s : Scene) : Readiness :=
  let source := s.source socket
  ⟨source.unread ≠ [] ∨ source.closed ∨ source.failsNext, s.link.isWoken⟩

/-- Others act until the poll finds something. If they never do, the poll does not end. -/
def awaitAny (socket : SocketId) (s : Scene) : Option (Except IoError Readiness × Scene) :=
  let ready := s.readiness socket
  if ready.socket || ready.wake then some (.ok ready, s)
  else
    match _hothers : s.others with
    | [] => none
    | _ :: _ => awaitAny socket s.meet
termination_by s.others.length
decreasing_by simp [meet, _hothers]

/-- What was read, with some bytes more of one generation. -/
def noted (log : Nat → Stretch) (generation : Nat) (chunk : Stretch) (g : Nat) : Stretch :=
  if g = generation then log g ++ chunk else log g

/-- One receive on a watched socket, which is noted. -/
def receive (w : Watch) (size : Nat) (s : Scene) : Except IoError Arrival × Scene :=
  let before := s.source w.socket
  let (result, after) := before.attempt size
  (result, { s with
    source := fun id => if id = w.socket then after else s.source id
    log := noted s.log w.generation (before.takenBy after) })

/-- The handler runs. The first of what it is to do is used up. -/
def runHandler (s : Scene) : Scene :=
  match s.handler with
  | [] => s
  | acts :: rest => { s.act acts with handler := rest }

/-- What the clocks show next. -/
def now (s : Scene) : Readings :=
  s.clocks.headD default

/-- The clocks were looked at. -/
def tick (s : Scene) : Scene :=
  { s with clocks := s.clocks.tail }

/-- Look at the clocks. -/
def readClocks : Scened Readings := fun s => some (s.now, s.tick)

/-- A scene, to read in. Releasing descriptors changes nothing that a reader sees. -/
def host : LinkHost Scened where
  onLink f := fun s =>
    let s := s.meet
    let (a, l) := f s.link
    some (a, { s with link := l })
  poll socket := fun s => s.meet.awaitAny socket
  receive w size := fun s => some (s.meet.receive w size)
  runHandler := fun s => some ((), s.meet.runHandler)
  release _ := pure ()

/-- Repeat until there is a result, at most so often. -/
def iterate {σ α : Type} (body : σ → Scened (σ ⊕ α)) : (steps : Nat) → σ → Scened α
  | 0, _, _ => none
  | steps + 1, start, s =>
    match body start s with
    | none => none
    | some (.inl next, s) => iterate body steps next s
    | some (.inr a, s) => some (a, s)

/-- One receive over the link, if it ends in so many steps. -/
def receiveOver (steps size : Nat) : Scened (Except SessionError Received) :=
  iterate (ReadPhase.step host size) steps .entering

/-- Read one frame over the link. -/
def pull (steps : Nat) (d : Deframer) :
    Scened (Result SessionError FrameOutcome × Deframer × List Descriptor) :=
  d.pullOver readClocks (receiveOver steps)

/-- Up to so many calls one after the other. A call that waits for ever is the last one. -/
def pulls (steps : Nat) : (calls : Nat) → Deframer → Scene →
    List (Result SessionError FrameOutcome) × Deframer × Scene
  | 0, d, s => ([], d, s)
  | calls + 1, d, s =>
    match pull steps d s with
    | none => ([], d, s)
    | some ((result, d, _), s) =>
      let (results, d, s) := pulls steps calls d s
      (result :: results, d, s)

end Scene

end Framecast
