import Framecast.Machine.Activity

/-!
# Sockets of a machine

Sending, receiving, connecting and accepting, as activities: a call that waits for a socket waits
no longer than that socket's timeout and then fails the way a call that may not wait fails.
-/

namespace Framecast.Machine

/-- Change the network, with a result. -/
def onNetwork {α : Type} (f : Network → α × Network) : Activity α :=
  modifyGet fun m =>
    let (a, n) := f m.network
    (a, { m with network := n })

/-- Change the network. -/
def changeNetwork (f : Network → Network) : Activity Unit :=
  onNetwork fun n => ((), f n)

/-- Close descriptors. -/
def release (descriptors : List Descriptor) : Activity Unit :=
  changeNetwork (·.release descriptors)

/-- Close a socket. -/
def close (socket : SocketId) : Activity Unit :=
  release [.socket socket]

/-- A pair of connected sockets. -/
def pair : Activity (SocketId × SocketId) :=
  onNetwork Network.pair

/-- A socket for a descriptor; one that is no socket gets an end without a peer. -/
def socketOf (d : Descriptor) : Activity SocketId :=
  match d.socket? with
  | some id => pure id
  | none => onNetwork Network.unconnected

/-- The moment until which a call may wait. -/
def deadline (timeout : Option Duration) : Activity (Option Duration) := do
  let m ← get
  return timeout.map m.after

/-- Receive what is there on a socket. -/
def tryReceive (socket : SocketId) : Receiver Activity := fun size =>
  onNetwork (·.receive socket size)

/-- Receive, waiting for something to arrive. -/
def receive (socket : SocketId) : Receiver Activity := fun size => do
  let m ← get
  let limit ← deadline ((m.network.get? socket).bind (·.readTimeout))
  Activity.await (·.network.isReadable socket) limit
  tryReceive socket size

/-- Send, waiting for room if the call waits at all; then it waits again until all is sent. The
error of a later part only ends the call. -/
def send (socket : SocketId) : Sender Activity := fun call =>
  Activity.iterate (fun (sent : Nat) => do
    if call.blocking then
      let m ← get
      let limit ← deadline ((m.network.get? socket).bind (·.writeTimeout))
      Activity.await (·.network.isWritable socket) limit
    let descriptors := if sent = 0 then call.descriptors else []
    match ← onNetwork (·.send socket (call.data.drop sent) descriptors) with
    | .error e => return .inr (if sent = 0 then .error e else .ok sent)
    | .ok taken =>
      let sent := sent + taken
      if call.blocking && sent < call.data.length && taken != 0 then return .inl sent
      else return .inr (.ok sent)) 0

/-- A socket as a channel, which waits as its timeouts say. -/
def channel (socket : SocketId) : Channel Activity where
  receive := receive socket
  send := send socket
  setReadTimeout timeout := onNetwork (·.setReadTimeout socket timeout)
  setWriteTimeout timeout := onNetwork (·.setWriteTimeout socket timeout)
  close := close socket
  release := release

/-- Bound each read and each write on a socket. -/
def setTimeouts (socket : SocketId) (timeout : Option Duration) :
    Activity (Except SocketError Unit) :=
  (channel socket).setTimeouts timeout

/-- Wait, but not longer than so, until one of the sockets can be read; which ones can. -/
def poll (sockets : List SocketId) (timeout : Duration) : Activity (List Bool) := do
  let limit ← deadline (some timeout)
  Activity.await (fun m => sockets.any m.network.isReadable) limit
  return sockets.map (← get).network.isReadable

/-- Receive without waiting until nothing is left: the bytes, the descriptors, and the error or the
end that came then. -/
def receiveAll (socket : SocketId) : Activity (Arrival × Option IoError) :=
  Activity.iterate (fun (all : Arrival) => do
    match ← tryReceive socket 65536 with
    | .error e => return .inr (all, some e)
    | .ok arrival =>
      if arrival.bytes.isEmpty then return .inr (all, none)
      else return .inl ⟨all.bytes ++ arrival.bytes, all.descriptors ++ arrival.descriptors⟩)
    ⟨[], []⟩

/-- Send zeros, a page at a time, without waiting until there is no more room. -/
def fillUp (socket : SocketId) : Activity IoError :=
  Activity.iterate (fun () => do
    match ← send socket ⟨List.replicate 4096 0, [], false⟩ with
    | .error e => return .inr e
    | .ok _ => return .inl ()) ()

/-- Change the files of the machine. A call that fails changes nothing. -/
def onFiles {ε α : Type} (f : FileTree → Except ε (α × FileTree)) : Activity (Except ε α) :=
  modifyGet fun m =>
    match f m.files with
    | .ok (a, files) => (.ok a, m.withFiles files)
    | .error e => (.error e, m)

/-- Bind a listener to a path. -/
def listen (path : String) (mode : Nat) : Activity (Except SocketError Nat) := do
  match ← onFiles (Listener.bind path mode) with
  | .error e => return .error e
  | .ok l => modifyGet fun m =>
    let (id, listeners) := m.listeners.insert l
    (.ok id, { m with listeners := listeners })

/-- Stop listening; connections that were not accepted are given up. -/
def unlisten (listener : Nat) : Activity Unit :=
  modify fun m =>
    match m.listeners.get? listener with
    | none => m
    | some l =>
      { m.withFiles (l.cleanUp m.files) with
        listeners := m.listeners.erase listener
        network := l.backlog.foldl (fun n s => n.abandon s) m.network }

/-- The listener that an entry belongs to. -/
def listenerOf? (entry : Entry) (m : Machine) : Option Nat :=
  (m.listeners.entries.find? (·.2.inode == entry.inode)).map Prod.fst

/-- Connect to the listener at a path. The connection can be used before it is accepted. -/
def connect (path : String) : Activity (Except SocketError SocketId) :=
  modifyGet fun m =>
    match Listener.target path m.files with
    | .error e => (.error (.connect path e), m)
    | .ok entry =>
      match m.listenerOf? entry with
      | none => (.error (.connect path .connectionRefused), m)
      | some id =>
        let ((client, server), network) := m.network.pair
        let queue (l : Listener) : Listener := { l with backlog := l.backlog ++ [server] }
        (.ok client, { m with network := network, listeners := m.listeners.modify id queue })

/-- Whether a connection waits to be accepted. -/
def hasCaller (listener : Nat) (m : Machine) : Bool :=
  match m.listeners.get? listener with
  | some l => !l.backlog.isEmpty
  | none => false

/-- Take the oldest connection that nobody accepted yet. -/
def acceptNow (listener : Nat) : Activity (Option SocketId) :=
  modifyGet fun m =>
    match (m.listeners.get? listener).map (·.backlog) with
    | some (socket :: rest) =>
      (some socket, { m with listeners := m.listeners.modify listener ({ · with backlog := rest }) })
    | _ => (none, m)

/-- Wait for a connection and take it. -/
def accept (listener : Nat) (timeout : Option Duration) : Activity (Option SocketId) := do
  let limit ← deadline timeout
  Activity.await (hasCaller listener) limit
  acceptNow listener

end Framecast.Machine
