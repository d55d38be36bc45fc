import Framecast.Machine.Attach

/-!
# Links and consumers of a machine

Reading over a link, with the phases of a read as the steps between which others may act, and the
consumers that read frames over a link and attach again when its socket ends.
-/

namespace Framecast.Machine

/-- Change a link. -/
def onLink (id : Nat) (f : Link → Link) : Activity Unit :=
  modify fun m => { m with links := m.links.modify id fun s => { s with link := f s.link } }

/-- Exchange the socket of a link; the old one is closed. -/
def setSocket (id : Nat) (socket : Option SocketId) : Activity Unit := do
  let old := ((← get).link id).socket
  onLink id fun l => (l.install socket).wake
  release (old.toList.map .socket)

/-- Put a link on the machine, with a socket or without one. -/
def openLink (socket : Option SocketId) : Activity Nat := do
  let id ← modifyGet fun m =>
    let (id, links) := m.links.insert {}
    (id, { m with links := links })
  if socket.isSome then setSocket id socket
  return id

/-- Let the end of a link's socket be followed by these actions, and by nothing else. -/
def setHandler (id : Nat) (actions : List EndAction) : Activity Unit := do
  let old := (((← get).links.get? id).getD {}).spare
  modify fun m => { m with links := m.links.modify id fun s =>
    { s with handler := some (.script actions 0) } }
  release old

/-- Close a link, its socket, and the sockets that its handler would have installed. -/
def closeLink (id : Nat) : Activity Unit := do
  let some seat := (← get).links.get? id | return
  modify fun m => { m with links := m.links.erase id }
  release (seat.link.socket.toList.map .socket ++ seat.spare)

/-- Cancel all reads on a link, those under way too. -/
def cancel (id : Nat) : Activity Unit :=
  onLink id fun l => l.cancel.wake

/-- Do what a scripted handler does once. -/
def EndAction.run (id : Nat) : EndAction → Activity Unit
  | .install socket => setSocket id (some socket)
  | .clear => setSocket id none
  | .cancel => cancel id
  | .nothing => pure ()

/-- Change a consumer. -/
def onConsumer (id : Nat) (f : Consumer → Consumer) : Activity Unit :=
  modify fun m => { m with consumers := m.consumers.modify id f }

/-- A consumer of the machine. -/
def consumerHost (id : Nat) (c : Consumer) : ConsumerHost Activity where
  attach := attach c.service
  noteCaps caps := onConsumer id ({ · with caps := some caps })
  install channel := do setSocket c.link (some (← socketOf channel))
  deframer := (fun m => (m.consumer id).deframer) <$> get
  putDeframer d := onConsumer id ({ · with deframer := d })
  readings := readings <$> get
  release := release

/-- Run the handler of a link, if it has one. -/
def runHandler (id : Nat) : Activity Unit := do
  match ((← get).links.get? id).bind (·.handler) with
  | none => return
  | some (.script actions calls) =>
    modify fun m => { m with links := m.links.modify id fun s =>
      { s with handler := some (.script actions.tail (calls + 1)) } }
    EndAction.run id (actions.head?.getD .nothing)
  | some (.reattach consumer) =>
    let some c := (← get).consumers.get? consumer | return
    Consumer.reattach (consumerHost consumer c)

/-- A link of the machine, to read over. -/
def linkHost (id : Nat) : LinkHost Activity where
  onLink f := modifyGet fun m =>
    let (a, l) := f (m.link id)
    (a, { m with links := m.links.modify id fun s => { s with link := l } })
  poll socket := do
    Activity.await (fun m => (m.link id).isWoken || m.network.isReadable socket) none
    let m ← get
    return .ok ⟨m.network.isReadable socket, (m.link id).isWoken⟩
  receive w := tryReceive w.socket
  runHandler := runHandler id
  release := release

/-- The socket that a read watches, which it keeps open. -/
def watched : ReadPhase → List Descriptor
  | .waiting w | .reading w | .ending w | .concluding w => [.socket w.socket]
  | .entering | .woken | .draining | .done _ => []

/-- One step of a read. The socket that it watches stays open when another takes its place. -/
def readStep (id size : Nat) (phase : ReadPhase) :
    Activity (ReadPhase ⊕ Except SessionError Received) := do
  let reached ← phase.step (linkHost id) size
  if let .inl next := reached then changeNetwork (·.hold (watched next))
  release (watched phase)
  return reached

/-- One receive on a link, through to its result. -/
def receiveOver (id size : Nat) : Activity (Except SessionError Received) :=
  Activity.iterate (readStep id size) .entering

/-- Read one frame over a link. Descriptors that the deframer let go of are closed. -/
def pullOver (id : Nat) (d : Deframer) :
    Activity (Result SessionError FrameOutcome × Deframer) := do
  let readings : Activity Readings := readings <$> get
  let (result, d, released) ← d.pullOver readings (receiveOver id)
  release released
  return (result, d)

/-- Receive over a link while something can be read and no frame is complete, at most so often.
There is no result if nothing could be read. -/
def pullReady (id : Nat) : Nat → Deframer →
    Activity (Option (Result SessionError FrameOutcome) × Deframer)
  | 0, d => return (none, d)
  | times + 1, d => do
    if (← get).isIdle id then return (none, d)
    else
      let (result, d) ← pullOver id d
      match result with
      | .ok .needMoreData =>
        let (later, d) ← pullReady id times d
        return (some (later.getD result), d)
      | result => return (some result, d)

/-- Put a consumer on the machine, with a link of its own whose handler attaches again. -/
def openConsumer (service : Service) (deframer : Deframer) : Activity Nat := do
  let link ← openLink none
  modifyGet fun m =>
    let (id, consumers) := m.consumers.insert ⟨service, link, deframer, none⟩
    let seat (s : LinkSeat) : LinkSeat := { s with handler := some (.reattach id) }
    (id, { m with consumers := consumers, links := m.links.modify link seat })

/-- Attach a consumer and read from what it gets. -/
def startConsumer (id : Nat) : Activity (Except SessionError String) := do
  let some c := (← get).consumers.get? id | return .error (.socket .notConnected)
  Consumer.start (consumerHost id c)

/-- Read the consumer's next frame. -/
def nextFrame (id : Nat) : Activity (Result SessionError FrameOutcome) :=
  Activity.iterate (fun () => do
    let some c := (← get).consumers.get? id | return .inr (.error (.socket .notConnected))
    Consumer.turn (consumerHost id c) (receiveOver c.link)) ()

/-- Close a consumer, its link and what is held of a frame. -/
def closeConsumer (id : Nat) : Activity Unit := do
  let some c := (← get).consumers.get? id | return
  modify fun m => { m with consumers := m.consumers.erase id }
  release c.deframer.pending
  closeLink c.link

/-- Close what a frame holds open. -/
def dropFrame (f : Frame) : Activity Unit :=
  match f.buffer.memory with
  | .region r => release [r.descriptor]
  | .heap _ => pure ()

end Framecast.Machine
