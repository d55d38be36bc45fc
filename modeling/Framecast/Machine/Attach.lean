import Framecast.Machine.Sockets

/-!
# Attaching

What happens when a consumer attaches: a producer registers one end of a new connection with its
fan-out and hands out the other, a client asks a server for that, and a roster passes the request
on. An attach that fails leaves nothing behind.
-/

namespace Framecast.Machine

/-- Put a fan-out on the machine. -/
def openFanout (f : Fanout) : Activity Nat :=
  modifyGet fun m =>
    let (id, fanouts) := m.fanouts.insert f
    (id, { m with fanouts := fanouts })

/-- Put a slot for a capability string on the machine. -/
def openSlot (caps : Option String) : Activity Nat :=
  modifyGet fun m =>
    let (id, slots) := m.slots.insert caps
    (id, { m with slots := slots })

/-- Put a producer on the machine. -/
def openProducer (p : Producer) : Activity Nat :=
  modifyGet fun m =>
    let (id, producers) := m.producers.insert p
    (id, { m with producers := producers })

/-- Put a roster on the machine. -/
def openRoster (items : List RosterItem) : Activity Nat :=
  modifyGet fun m =>
    let (id, rosters) := m.rosters.insert { items := items }
    (id, { m with rosters := rosters })

/-- Change a fan-out. -/
def onFanout (id : Nat) (f : Fanout → Fanout) : Activity Unit :=
  modify fun m => { m with fanouts := m.fanouts.modify id f }

/-- A fan-out of the machine. There is nothing to register with if it is not open. -/
def fanoutHost (id : Nat) : FanoutHost Activity where
  onFanout f := modifyGet fun m =>
    let (a, fanout) := f (m.fanout id)
    (a, { m with fanouts := m.fanouts.modify id fun _ => fanout })
  onNames f := modifyGet fun m =>
    let (a, names) := f m.names
    (a, { m with names := names })
  readings := readings <$> get
  sleep := Activity.sleepEach
  setWriteTimeout socket timeout := do
    if ((← get).fanouts.get? id).isSome then onNetwork (·.setWriteTimeout socket timeout)
    else return .error .notConnected
  send := send
  close := close

/-- Register a socket with a fan-out. The socket is closed if that fails. -/
def addClient (fanout : Nat) (socket : SocketId) : Activity (Except SessionError Nat) :=
  Fanout.register (fanoutHost fanout) socket

/-- Remove a client and close its socket; whether there was one. -/
def removeClient (fanout client : Nat) : Activity Bool :=
  Fanout.unregister (fanoutHost fanout) client

/-- Fill a slot, or empty it. -/
def setCaps (slot : Nat) (caps : Option String) : Activity Unit :=
  modify fun m => { m with slots := m.slots.modify slot fun _ => caps }

/-- Wait, but not longer than so, for the capabilities in a slot. -/
def awaitCaps (slot : Nat) (timeout : Duration) : Activity (Option String) := do
  let limit ← deadline (some timeout)
  Activity.await (fun m => (m.caps? slot).isSome) limit
  return (← get).caps? slot

/-- A producer of the machine, in its surroundings. -/
def producerHost (id : Nat) (p : Producer) : ProducerHost Activity where
  fanout := fanoutHost p.fanout
  onProducer f := modifyGet fun m =>
    let (a, p) := f ((m.producers.get? id).getD p)
    (a, { m with producers := m.producers.modify id fun _ => p })
  pair := .ok <$> pair
  awaitCaps := awaitCaps p.slot p.capsTimeout

/-- Attach to a producer of this machine. -/
def attachProducer (id : Nat) : Activity (Except SessionError Attachment) := do
  match (← get).producers.get? id with
  | none => return .error (.refused (.stated "no producer"))
  | some p => Producer.attach (producerHost id p)

/-- Attach to the producer behind a path. -/
def attachClient (path : String) (config : EndpointConfig) :
    Activity (Except SessionError Attachment) := do
  match ← connect path with
  | .error e => return .error (.socket e)
  | .ok socket => Exchange.ask config (channel socket)

/-- How long is waited before an attach is tried again. -/
def retryInterval : Duration := .ofMillis 50

/-- Ask the server behind a path, trying again for some time while it is not there. -/
def attachRetrying (path : String) (config : EndpointConfig) (patience : Duration) :
    Activity (Except SessionError Attachment) := do
  let limit := (← get).after patience
  Activity.iterate (fun () => do
    match ← attachClient path config with
    | .ok a => return .inr (.ok a)
    | .error e =>
      if e.isRetryable && !Wait.isPast (← get).now (some limit) then
        Activity.sleep retryInterval
        return .inl ()
      else return .inr (.error e)) ()

/-- Take what comes next in a roster. -/
def takeTurn (roster : Nat) : Activity (Option RosterItem) :=
  modifyGet fun m =>
    let items := ((m.rosters.get? roster).getD {}).items
    (items.head?, { m with rosters := m.rosters.modify roster fun r =>
      ⟨r.items.tail, r.calls + 1⟩ })

/-- Attach through a service, passing on to others at most so often. -/
def attachWithin : Nat → Service → Activity (Except SessionError Attachment)
  | 0, _ => Activity.stuck
  | _ + 1, .producer id => attachProducer id
  | _ + 1, .client path config => attachClient path config
  | _ + 1, .retrying path config patience => attachRetrying path config patience
  | turns + 1, .roster id => do
    match ← takeTurn id with
    | none => return .error (.refused (.stated "no more services"))
    | some (.via service) => attachWithin turns service
    | some (.refuse e) => return .error e
    | some (.give socket caps) => return .ok { channel := .socket socket, caps := caps }

/-- Attach through a service, in as many steps as there are. -/
def attach (service : Service) : Activity (Except SessionError Attachment) :=
  Activity.withSteps fun steps => attachWithin steps service

/-- Give up an attachment. Unless it was kept, its registration is taken back. -/
def discard (a : Attachment) : Activity Unit :=
  a.giveUp fanoutHost release

/-- Attach for somebody else: once delivered, our copy of the socket is closed. -/
def attachSource (service : Service) : AttachSource Activity :=
  ⟨attach service, fun a => discard a.commit, discard⟩

/-- Send a buffer to all clients of a fan-out. -/
def render (fanout : Nat) (buffer : Buffer) : Activity (Except SessionError RenderTally) := do
  let result ← Fanout.render (fanoutHost fanout) buffer
  return result.map (·.tally)

end Framecast.Machine
