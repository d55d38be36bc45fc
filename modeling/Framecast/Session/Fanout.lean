import Framecast.Frame.Writer
import Framecast.Session.Error

/-!
# Fan-outs

A fan-out sends every frame to all its clients. The buffer is prepared once; each client gets the
whole packet, or nothing of it if its socket has no room, and a client whose write fails is removed.

Rendering goes through phases that other calls may come between: take the list of clients, prepare
the packet and `broadcast` it, count the frame (`record`), and `unregister` each client that failed.
What a fan-out needs of its surroundings is a `FanoutHost`.
-/

namespace Framecast

/-- A consumer's socket under its number. -/
structure FanoutClient where
  id : Nat
  socket : SocketId
  deriving DecidableEq, Repr

/-- A sender with the consumers that each of its packets goes to. -/
structure Fanout where
  clients : List FanoutClient := []
  nextId : Nat := 1
  framer : Framer := {}
  /-- Bound on finishing a frame that was begun. -/
  writeTimeout : Option Duration := some (.ofSeconds 1)
  deriving Repr, Inhabited

/-- What became of one rendered frame, in numbers of clients. -/
structure RenderTally where
  delivered : Nat := 0
  skipped : Nat := 0
  dropped : Nat := 0
  deriving DecidableEq, Repr

/-- What the write of a packet to one client came to. -/
structure Delivery where
  client : Nat
  outcome : Except FrameError WriteOutcome

namespace Delivery

/-- The client got the whole packet. -/
def isWhole (d : Delivery) : Bool :=
  match d.outcome with
  | .ok .written => true
  | .ok .wouldBlock | .error _ => false

/-- The client got nothing, because its socket had no room. -/
def isSkipped (d : Delivery) : Bool :=
  match d.outcome with
  | .ok .wouldBlock => true
  | .ok .written | .error _ => false

/-- Whether the client is to be dropped. -/
def isFailed (d : Delivery) : Bool :=
  match d.outcome with
  | .error _ => true
  | .ok _ => false

/-- The clients whose write failed, in order. -/
def failed (deliveries : List Delivery) : List Nat :=
  (deliveries.filter (·.isFailed)).map (·.client)

end Delivery

/-- What became of a buffer: the packet it was turned into, if there was any client, and what its
write to each of them came to. -/
structure Rendering where
  packet : Option Packet := none
  deliveries : List Delivery := []
  /-- Clients that were removed because their write failed. -/
  dropped : Nat := 0

/-- A rendering in numbers. -/
def Rendering.tally (r : Rendering) : RenderTally :=
  ⟨r.deliveries.countP (·.isWhole), r.deliveries.countP (·.isSkipped), r.dropped⟩

/-- What a fan-out needs of the place where it is. -/
structure FanoutHost (m : Type → Type) where
  /-- One step on the fan-out, which nothing interrupts. -/
  onFanout : {α : Type} → (Fanout → α × Fanout) → m α
  /-- One step on the names under which backing files are made. -/
  onNames : {α : Type} → (Arena.NameSpace → α × Arena.NameSpace) → m α
  readings : m Readings
  sleep : List Duration → m Unit
  setWriteTimeout : SocketId → Option Duration → m (Except SocketError Unit)
  send : SocketId → Sender m
  close : SocketId → m Unit

namespace Fanout

/-- Register a socket under the next number. -/
def add (socket : SocketId) (f : Fanout) : Nat × Fanout :=
  (f.nextId,
    { f with clients := f.clients ++ [⟨f.nextId, socket⟩], nextId := f.nextId + 1 })

/-- The socket of a client, if it is registered. -/
def socketOf? (id : Nat) (f : Fanout) : Option SocketId :=
  (f.clients.find? (·.id = id)).map (·.socket)

/-- Drop a client from the list. -/
def remove (id : Nat) (f : Fanout) : Fanout :=
  { f with clients := f.clients.filter (·.id ≠ id) }

/-- Count the frame if any client got it. -/
def record (deliveries : List Delivery) (f : Fanout) : Fanout :=
  if deliveries.any (·.isWhole) then { f with framer := f.framer.countSent } else f

/-- Run the checkpoint of the framer. -/
def check (f : Fanout) : (List Duration × Except FrameError Unit × Framer) × Fanout :=
  let (sleeps, checked, framer) := f.framer.runCheckpoint
  ((sleeps, checked, framer), { f with framer := framer })

variable {m : Type → Type} [Monad m]

/-- Register a socket. It is closed if that fails. -/
def register (host : FanoutHost m) (socket : SocketId) : m (Except SessionError Nat) := do
  let timeout ← host.onFanout fun f => (f.writeTimeout, f)
  match ← host.setWriteTimeout socket timeout with
  | .error e =>
    host.close socket
    return .error (.socket e)
  | .ok () =>
    let id ← host.onFanout (add socket)
    return .ok id

/-- Remove a client and close its socket; whether there was one. -/
def unregister (host : FanoutHost m) (id : Nat) : m Bool := do
  match ← host.onFanout fun f => (f.socketOf? id, f.remove id) with
  | none => return false
  | some socket =>
    host.close socket
    return true

/-- Remove clients; how many there were. -/
def unregisterAll (host : FanoutHost m) : List Nat → m Nat
  | [] => return 0
  | id :: rest => do
    let found ← unregister host id
    let count ← unregisterAll host rest
    return if found then count + 1 else count

/-- Write a packet to each client in turn. -/
def broadcast (send : SocketId → Sender m) (packet : Packet) :
    List FanoutClient → m (List Delivery)
  | [] => return []
  | c :: rest => do
    let outcome ← packet.write (send c.socket) false
    let deliveries ← broadcast send packet rest
    return ⟨c.id, outcome⟩ :: deliveries

/-- Turn a buffer into a packet, and keep what the framer learnt. -/
def prepare (host : FanoutHost m) (framer : Framer) (buffer : Buffer) :
    m (Except FrameError Packet) := do
  let now ← host.readings
  let (prepared, framer) ← host.onNames fun names =>
    let (prepared, framer, names) := framer.prepare now buffer names
    ((prepared, framer), names)
  host.onFanout fun f => ((), { f with framer := framer })
  return prepared

/-- Send a packet to clients, and remove those whose write failed. -/
def publish (host : FanoutHost m) (packet : Packet) (targets : List FanoutClient) : m Rendering := do
  let deliveries ← broadcast host.send packet targets
  host.onFanout fun f => ((), f.record deliveries)
  let dropped ← unregisterAll host (Delivery.failed deliveries)
  return ⟨some packet, deliveries, dropped⟩

/-- Send a buffer to clients, if there are any. -/
def renderTo (host : FanoutHost m) (buffer : Buffer) (targets : List FanoutClient) :
    m (Except SessionError Rendering) :=
  if targets.isEmpty then return .ok {}
  else do
    let (sleeps, checked, framer) ← host.onFanout check
    host.sleep sleeps
    match checked with
    | .error e => return .error (.frame e)
    | .ok () =>
      match ← prepare host framer buffer with
      | .error e => return .error (.frame e)
      | .ok packet =>
        let rendering ← publish host packet targets
        return .ok rendering

/-- Send a buffer to all clients. -/
def render (host : FanoutHost m) (buffer : Buffer) : m (Except SessionError Rendering) := do
  let targets ← host.onFanout fun f => (f.clients, f)
  renderTo host buffer targets

end Fanout

end Framecast
