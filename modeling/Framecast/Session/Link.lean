import Framecast.Frame.Deframer
import Framecast.Session.Error

/-!
# Links

A link is a receive channel whose socket can be exchanged while a read is in progress. Only the
socket with its generation and two flags are shared with others; a reader goes through the phases of
a `ReadPhase`, each a single step on the link or on its socket:

* look at the link, and note the socket and its generation or return at once;
* wait until the socket or the link's own wake signal can be read;
* after a wake signal, see whether the read was cancelled, drain the signals and start again;
* read from the socket; when it has ended, run the end-of-stream handler and then `conclude`, which
  finds out whether another socket took its place.

Every installation is a new generation, also of a socket that was installed before, so the reader
recognises a replacement by its generation alone. What a reader needs of its surroundings is a
`LinkHost`.
-/

namespace Framecast

/-- The shared state of a receive channel. -/
structure Link where
  socket : Option SocketId := none
  /-- Sockets installed or cleared so far. -/
  generation : Nat := 0
  cancelled : Bool := false
  /-- The last socket ended and no other took its place. -/
  ended : Bool := false
  /-- Wake signals that nobody has taken yet. -/
  wakes : Nat := 0
  deriving DecidableEq, Repr, Inhabited

/-- What a link looks like from outside. -/
inductive LinkState where
  | disconnected
  | connected
  | flushing
  | endOfStream
  deriving DecidableEq, Repr

/-- The socket a reader looks at, and when it was installed. -/
structure Watch where
  socket : SocketId
  generation : Nat
  deriving DecidableEq, Repr

/-- How a read starts. -/
inductive Entering where
  | flushing
  | notConnected
  | watching (watch : Watch)
  deriving DecidableEq, Repr

/-- What one read over a link comes to. -/
inductive Received where
  | data (arrival : Arrival) (generation : Nat)
  | flushing
  | endOfStream
  deriving DecidableEq, Repr

namespace Link

/-- The state of a link. A cancelled link shows nothing else. -/
def state (l : Link) : LinkState :=
  if l.cancelled then .flushing
  else if l.ended then .endOfStream
  else if l.socket.isSome then .connected
  else .disconnected

/-- Put another socket on the link, or none. Each time is a generation of its own. -/
def install (socket : Option SocketId) (l : Link) : Link :=
  { l with socket := socket, generation := l.generation + 1, ended := false }

/-- Put one more byte into the wake pipe. -/
def wake (l : Link) : Link :=
  { l with wakes := l.wakes + 1 }

/-- Ask for every read to return. -/
def cancel (l : Link) : Link :=
  { l with cancelled := true }

/-- Let reads wait again. -/
def resume (l : Link) : Link :=
  { l with cancelled := false, wakes := 0 }

/-- Start a read: look at the socket and at its generation. -/
def enter (l : Link) : Entering :=
  if l.cancelled then .flushing
  else
    match l.socket with
    | some socket => .watching ⟨socket, l.generation⟩
    | none => .notConnected

/-- Whether the wake pipe holds a byte. -/
def isWoken (l : Link) : Bool :=
  0 < l.wakes

/-- Empty the wake pipe. -/
def drain (l : Link) : Link :=
  { l with wakes := 0 }

/-- Whether a socket took the place of the one that was watched. -/
def isReplaced (w : Watch) (l : Link) : Bool :=
  l.socket.isSome && l.generation != w.generation

/-- How a read goes on when the watched socket has ended and the handler was run. -/
inductive Ending where
  | replaced
  /-- The link has ended, and this socket is no longer installed. -/
  | ended (socket : Option SocketId)
  deriving DecidableEq, Repr

/-- The socket that an ending removes from the link. -/
def Ending.removed : Ending → List Descriptor
  | replaced => []
  | ended socket => socket.toList.map .socket

/-- The watched socket has ended, and the handler was run. Either another socket took its place, or
the link has ended. -/
def conclude (w : Watch) (l : Link) : Ending × Link :=
  if l.isReplaced w then (.replaced, l)
  else (.ended l.socket, { l with socket := none, ended := true })

@[simp] theorem generation_conclude (w : Watch) (l : Link) :
    (l.conclude w).2.generation = l.generation := by
  unfold conclude
  split <;> rfl

end Link

/-- How far a read over a link has come. -/
inductive ReadPhase where
  | entering
  | waiting (watch : Watch)
  /-- There was a wake signal. -/
  | woken
  /-- The wake signals are to be taken. -/
  | draining
  | reading (watch : Watch)
  /-- The watched socket has ended, and the handler is to be run. -/
  | ending (watch : Watch)
  | concluding (watch : Watch)
  | done (result : Except SessionError Received)
  deriving Repr

/-- What a poll finds to be ready. -/
structure Readiness where
  socket : Bool
  wake : Bool
  deriving DecidableEq, Repr

/-- What a reader needs of the place where its link is. -/
structure LinkHost (m : Type → Type) where
  /-- One step on the link, which nothing interrupts. -/
  onLink : {α : Type} → (Link → α × Link) → m α
  /-- Wait until the socket or a wake signal can be read. -/
  poll : SocketId → m (Except IoError Readiness)
  /-- Receive without waiting. -/
  receive : Watch → Receiver m
  runHandler : m Unit
  release : List Descriptor → m Unit

namespace ReadPhase

/-- Where a read goes from its start. -/
def ofEntering (size : Nat) : Entering → ReadPhase
  | .flushing => done (.ok .flushing)
  | .notConnected => done (.error (.socket .notConnected))
  | .watching w => if size = 0 then done (.ok (.data ⟨[], []⟩ w.generation)) else waiting w

/-- The wait is over. A wake signal goes before the socket. -/
def ofPoll (w : Watch) : Except IoError Readiness → ReadPhase
  | .error e => done (.error (.socket (.io e)))
  | .ok ready => if ready.wake then woken else if ready.socket then reading w else entering

/-- Where a read goes after a receive. Nothing received is the end of the stream. -/
def ofReceive (w : Watch) : Except IoError Arrival → ReadPhase
  | .ok arrival => if arrival.bytes.isEmpty then ending w else done (.ok (.data arrival w.generation))
  | .error e =>
    if e.kind = .wouldBlock ∨ e.kind = .interrupted then entering
    else done (.error (.socket (.io e)))

/-- Descriptors that came without any bytes. -/
def strays : Except IoError Arrival → List Descriptor
  | .ok arrival => if arrival.bytes.isEmpty then arrival.descriptors else []
  | .error _ => []

/-- Where a read goes once the end of its socket was dealt with. -/
def ofEnding : Link.Ending → ReadPhase
  | .replaced => entering
  | .ended _ => done (.ok .endOfStream)

variable {m : Type → Type} [Monad m]

/-- One step of a read of at most so many bytes. -/
def advance (host : LinkHost m) (size : Nat) : ReadPhase → m ReadPhase
  | entering => host.onLink fun l => (ofEntering size l.enter, l)
  | waiting w => return ofPoll w (← host.poll w.socket)
  | woken => host.onLink fun l => (if l.cancelled then entering else draining, l)
  | draining => host.onLink fun l => (entering, l.drain)
  | reading w => do
    let result ← host.receive w size
    host.release (strays result)
    return ofReceive w result
  | ending w => do
    host.runHandler
    return concluding w
  | concluding w => do
    let ending ← host.onLink (Link.conclude w)
    host.release ending.removed
    return ofEnding ending
  | done result => return done result

/-- One step of a read, and its result if that was the last one. -/
def step (host : LinkHost m) (size : Nat) (phase : ReadPhase) :
    m (ReadPhase ⊕ Except SessionError Received) := do
  match ← phase.advance host size with
  | done result => return .inr result
  | next => return .inl next

section

variable {σ : Type} (host : LinkHost (StateT σ Option)) (size : Nat)

/-- Read on until the read returns. A read that waits for ever has no result. -/
def finish (phase : ReadPhase) (s : σ) : Option (Except SessionError Received × σ) :=
  match phase.step host size s with
  | none => none
  | some (.inr result, s) => some (result, s)
  | some (.inl next, s) => finish.uncurry (next, s)
partial_fixpoint monotonicity fun _ _ hle phase s => by
  dsimp only
  rcases phase.step host size s with _ | ⟨next | result, s⟩
  · exact .bot
  · exact hle next s
  · exact .refl

@[simp] theorem finish_done (result : Except SessionError Received) (s : σ) :
    (done result).finish host size s = some (result, s) := by
  have hstep : (done result).step host size s = some (.inr result, s) := rfl
  rw [finish, hstep]

variable {host : LinkHost (StateT σ Option)} {size : Nat} {phase next : ReadPhase} {s s' : σ}

theorem step_of_none (h : phase.advance host size s = none) : phase.step host size s = none := by
  unfold step
  simp only [bind, StateT.bind, h]
  rfl

theorem step_of_some (h : phase.advance host size s = some (next, s')) :
    phase.step host size s =
      match next with
      | done result => some (.inr result, s')
      | next => some (.inl next, s') := by
  unfold step
  simp only [bind, StateT.bind, h, Option.bind]
  cases next <;> rfl

theorem finish_of_none (h : phase.advance host size s = none) :
    phase.finish host size s = none := by
  rw [finish, step_of_none h]

/-- A read goes on with its next step. -/
theorem finish_of_some (h : phase.advance host size s = some (next, s')) :
    phase.finish host size s = next.finish host size s' := by
  rw [finish, step_of_some h]
  cases next with
  | done result => rw [finish_done]
  | _ => rfl

/-- What every step of a read preserves, the whole read preserves. -/
theorem finish_keeps {P : σ → Prop}
    (hkeeps : ∀ {phase next : ReadPhase} {s s' : σ}, P s →
      phase.advance host size s = some (next, s') → P s')
    {result : Except SessionError Received} (h : P s)
    (hfinish : phase.finish host size s = some (result, s')) : P s' := by
  -- A read that returns has finitely many steps; `ih` is about those after the first.
  refine finish.partial_correctness host size (fun _ s r => P s → P r.2) ?_ phase s (result, s')
    hfinish h
  intro finish ih phase s r hstep hs
  cases hadvance : phase.advance host size s with
  | none =>
    rw [step_of_none hadvance] at hstep
    cases hstep
  | some advanced =>
    obtain ⟨next, s₁⟩ := advanced
    have hnext := hkeeps hs hadvance
    rw [step_of_some hadvance] at hstep
    cases next with
    | done result =>
      cases hstep
      exact hnext
    | _ => exact ih _ _ _ hstep hnext

end

end ReadPhase

namespace Deframer

/-- Take in what a read brought. Bytes of another generation drop what is held of a frame. -/
def absorbReceived (now : Readings) (received : Received) (d : Deframer) : Step :=
  match received with
  | .flushing => ⟨.ok .flushing, d, []⟩
  | .endOfStream =>
    let (d, released) := d.reset
    ⟨.ok .endOfStream, d, released⟩
  | .data arrival generation =>
    let (d, released) := d.setStream generation
    let step := ((d.push arrival.bytes arrival.descriptors).parse now).toStep
    { step with released := released ++ step.released }

/-- Receive at most once over a link and try to complete a frame. -/
def pullOver {m : Type → Type} [Monad m] (readings : m Readings)
    (receive : Nat → m (Except SessionError Received)) (d : Deframer) :
    m (Result SessionError FrameOutcome × Deframer × List Descriptor) := do
  let finish (s : Step) : Result SessionError FrameOutcome × Deframer × List Descriptor :=
    (s.result.mapError .frame, s.deframer, s.released)
  let parsed := d.parse (← readings)
  match parsed.result with
  | .error _ | .panic _ | .ok (some _) => return finish parsed.toStep
  | .ok none =>
    match ← receive d.wanted with
    | .error e => return (.error e, d, [])
    | .ok received => return finish (d.absorbReceived (← readings) received)

variable {σ : Type} {readings : StateT σ Option Readings}
  {receive : Nat → StateT σ Option (Except SessionError Received)} {d : Deframer} {now : Readings}
  {s s' : σ}

/-- What was held comes to something without a receive. -/
theorem pullOver_of_parse_ne (hnow : readings s = some (now, s'))
    (h : (d.parse now).result ≠ .ok none) :
    d.pullOver readings receive s =
      let step := (d.parse now).toStep
      some ((step.result.mapError .frame, step.deframer, step.released), s') := by
  unfold pullOver
  show Option.bind (readings s) _ = _
  rw [hnow, Option.bind_some]
  dsimp only
  rcases hresult : (d.parse now).result with (_ | f) | e | message
  · exact absurd hresult h
  · rfl
  · rfl
  · rfl

/-- Without a frame, a call receives once and looks again. -/
theorem pullOver_of_parse_eq (hnow : readings s = some (now, s'))
    (h : (d.parse now).result = .ok none) :
    d.pullOver readings receive s =
      (receive d.wanted s').bind fun
        | (.error e, s₁) => some ((.error e, d, []), s₁)
        | (.ok received, s₁) => (readings s₁).map fun (now, s₂) =>
          let step := d.absorbReceived now received
          ((step.result.mapError .frame, step.deframer, step.released), s₂) := by
  unfold pullOver
  show Option.bind (readings s) _ = _
  rw [hnow, Option.bind_some]
  dsimp only
  rw [h]
  show Option.bind (receive d.wanted s') _ = Option.bind (receive d.wanted s') _
  rcases receive d.wanted s' with _ | ⟨_ | received, s₁⟩
  · rfl
  · rfl
  · show Option.bind (readings s₁) _ = Option.map _ (readings s₁)
    cases readings s₁ <;> rfl

end Deframer

end Framecast
