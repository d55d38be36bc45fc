import Framecast.Socket.Error
import Framecast.Socket.Transfer
import Framecast.Duration
import Framecast.Table

/-!
# Connected sockets

Stream sockets of one machine, in connected pairs. A socket queues what its peer sent as segments,
at least one for each send; a receive merges segments, but stops behind the first whose descriptors
it took. A queue has room as long as the memory taken by its segments is below a limit. The peer of
a closed socket reads what is queued and then the end of the stream, with one error in between if
the closed socket still had unread bytes.

A descriptor of a socket counts as a holder of it, wherever it is: named by a program or waiting in
a queue. The socket closes when its last holder lets go.
-/

namespace Framecast

/-- Bytes of one send that are still queued, and the descriptors riding on the first of them. -/
structure Segment where
  bytes : Bytes
  descriptors : List Descriptor
  /-- Memory taken by the segment until its last byte is received. -/
  charge : Nat
  deriving DecidableEq, Repr

/-- One end of a connection. -/
structure Socket where
  /-- The other end; none if the socket was never connected. -/
  peer : Option SocketId
  /-- Descriptors that refer to the socket. -/
  holders : Nat := 1
  inbox : List Segment := []
  sendShut : Bool := false
  receiveShut : Bool := false
  /-- The connection was reset and nobody was told yet. -/
  reset : Bool := false
  readTimeout : Option Duration := none
  writeTimeout : Option Duration := none
  deriving DecidableEq, Repr

/-- All open sockets of a machine. -/
structure Network where
  sockets : Table Socket := {}
  deriving Repr, Inhabited

namespace Segment

/-- Most bytes of a segment. -/
def limit : Nat := 36544

/-- The least multiple of a unit that is no less than a number. -/
def roundUp (unit n : Nat) : Nat :=
  (n + (unit - 1)) / unit * unit

/-- Memory taken by a segment of so many bytes: up to 3776 bytes lie in one block behind its header,
in a block of the least power of two from 512 on, and the others fill whole pages. -/
def memory (length : Nat) : Nat :=
  let paged := if length ≤ 3776 then 0 else min length (roundUp 4096 (length - 3776))
  let least := roundUp 64 (length - paged) + 320
  let block :=
    if least ≤ 512 then 512
    else if least ≤ 1024 then 1024
    else if least ≤ 2048 then 2048
    else 4096
  block + 256 + paged

/-- A segment of these bytes, with the memory that it takes. -/
def ofBytes (bytes : Bytes) (descriptors : List Descriptor) : Segment :=
  ⟨bytes, descriptors, memory bytes.length⟩

/-- Take up to so many bytes off a queue, with the descriptors of at most one segment. -/
def take (size : Nat) : List Segment → Arrival × List Segment
  | [] => (⟨[], []⟩, [])
  | s :: rest =>
    if size < s.bytes.length then
      let left : Segment := { s with bytes := s.bytes.drop size, descriptors := [] }
      (⟨s.bytes.take size, s.descriptors⟩, left :: rest)
    else if !s.descriptors.isEmpty || size == s.bytes.length then
      (⟨s.bytes, s.descriptors⟩, rest)
    else
      let (more, left) := take (size - s.bytes.length) rest
      (⟨s.bytes ++ more.bytes, more.descriptors⟩, left)

end Segment

namespace Socket

/-- Memory taken by what waits to be received. -/
def charge (s : Socket) : Nat :=
  s.inbox.foldr (fun segment total => segment.charge + total) 0

/-- The descriptors that wait to be received. -/
def queuedDescriptors (s : Socket) : List Descriptor :=
  s.inbox.flatMap (·.descriptors)

/-- Whether a receive would not have to wait. -/
def isReadable (s : Socket) : Bool :=
  !s.inbox.isEmpty || s.receiveShut || s.reset || s.peer.isNone

end Socket

namespace Network

/-- A queue takes one more segment as long as those in it take less memory than this. -/
def queueLimit : Nat := 212992

/-- Most descriptors that one receive takes; the others of its segment are closed. -/
def maxReceived : Nat := 8

/-- Most descriptors that one send takes. -/
def maxSent : Nat := 253

/-- A socket, if it is still held. -/
def get? (id : SocketId) (n : Network) : Option Socket :=
  n.sockets.get? id

/-- Put a new socket on the network. -/
def insert (s : Socket) (n : Network) : SocketId × Network :=
  let (id, sockets) := n.sockets.insert s
  (id, ⟨sockets⟩)

/-- Take a socket off the network. -/
def erase (id : SocketId) (n : Network) : Network :=
  ⟨n.sockets.erase id⟩

/-- Change a socket. -/
def modify (id : SocketId) (f : Socket → Socket) (n : Network) : Network :=
  ⟨n.sockets.modify id f⟩

/-- Two new sockets, each the other's peer. -/
def pair (n : Network) : (SocketId × SocketId) × Network :=
  let (a, n) := n.insert { peer := none }
  let (b, n) := n.insert { peer := some a }
  ((a, b), n.modify a ({ · with peer := some b }))

/-- A new socket without a peer. -/
def unconnected (n : Network) : SocketId × Network :=
  n.insert { peer := none }

/-- One more descriptor of each of these. -/
def hold (descriptors : List Descriptor) (n : Network) : Network :=
  (descriptors.filterMap Descriptor.socket?).foldl
    (fun n id => n.modify id fun s => { s with holders := s.holders + 1 }) n

/-- What the peer of a closed socket sees. -/
def hangUp (unread : Bool) (peer : Option SocketId) (n : Network) : Network :=
  match peer with
  | none => n
  | some id => n.modify id fun s =>
    { s with sendShut := true, receiveShut := true, reset := s.reset || unread }

/-- One descriptor less of a socket. If it was the last, the socket closes, and the descriptors that
were waiting in it are returned. A connection that nobody ever accepted is always reset. -/
def letGo (id : SocketId) (accepted : Bool) (n : Network) : List Descriptor × Network :=
  match n.get? id with
  | none => ([], n)
  | some s =>
    if 1 < s.holders then ([], n.modify id fun s => { s with holders := s.holders - 1 })
    else
      (s.queuedDescriptors, hangUp (!accepted || !s.inbox.isEmpty) s.peer (n.erase id))

/-- Close descriptors, and those that close with them, up to a number. -/
def releaseWithin : Nat → List Descriptor → Network → Network
  | 0, _, n => n
  | _ + 1, [], n => n
  | steps + 1, d :: rest, n =>
    match d.socket? with
    | none => releaseWithin steps rest n
    | some id =>
      let (waiting, n) := n.letGo id true
      releaseWithin steps (waiting ++ rest) n

/-- Descriptors waiting in all queues. -/
def inFlight (n : Network) : Nat :=
  n.sockets.values.foldr (fun s total => s.queuedDescriptors.length + total) 0

/-- Close descriptors. Sockets that close give up the descriptors waiting in them. -/
def release (descriptors : List Descriptor) (n : Network) : Network :=
  releaseWithin (descriptors.length + n.inFlight) descriptors n

/-- Close one descriptor of a socket. -/
def close (id : SocketId) (n : Network) : Network :=
  n.release [.socket id]

/-- Give up a connection that nobody accepted. -/
def abandon (id : SocketId) (n : Network) : Network :=
  let (waiting, n) := n.letGo id false
  n.release waiting

/-- Whether a receive would return at once. On a socket that is gone it does, with an error. -/
def isReadable (id : SocketId) (n : Network) : Bool :=
  match n.get? id with
  | some s => s.isReadable
  | none => true

/-- Whether a socket takes more of what its peer sends. -/
def hasRoom (id : SocketId) (n : Network) : Bool :=
  match n.get? id with
  | some s => s.charge < queueLimit
  | none => false

/-- Whether a send would not have to wait. -/
def isWritable (id : SocketId) (n : Network) : Bool :=
  match n.get? id with
  | some s => s.sendShut || s.peer.all n.hasRoom
  | none => true

/-- Receive what is there on a socket, up to a size. -/
def receive (id : SocketId) (size : Nat) (n : Network) : Except IoError Arrival × Network :=
  match n.get? id with
  | none => (.error .invalidArgument, n)
  | some s =>
    if s.peer.isNone then (.error .invalidArgument, n)
    else if !s.inbox.isEmpty then
      let (arrival, left) := Segment.take size s.inbox
      let n := n.modify id ({ · with inbox := left })
      let kept := arrival.descriptors.take maxReceived
      (.ok { arrival with descriptors := kept }, n.release (arrival.descriptors.drop maxReceived))
    else if s.reset then (.error .connectionReset, n.modify id ({ · with reset := false }))
    else if s.receiveShut then (.ok ⟨[], []⟩, n)
    else (.error .wouldBlock, n)

/-- Queue bytes at a socket, one segment after the other as long as there is room; the first takes
the descriptors with it. The answer is the number of bytes taken. -/
def enqueue (peer : SocketId) (data : Bytes) (descriptors : List Descriptor) (n : Network) :
    Nat × Network :=
  if _ : data = [] then (0, n)
  else if n.hasRoom peer then
    let segment := Segment.ofBytes (data.take Segment.limit) descriptors
    let n := n.modify peer fun p => { p with inbox := p.inbox ++ [segment] }
    let (taken, n) := n.enqueue peer (data.drop Segment.limit) []
    (segment.bytes.length + taken, n)
  else (0, n)
termination_by data.length
decreasing_by exact Bytes.length_drop_lt fun h' => h'.elim (by decide) ‹_›

/-- Send without waiting; descriptors are shared with the receiver. -/
def send (id : SocketId) (data : Bytes) (descriptors : List Descriptor) (n : Network) :
    Except IoError Nat × Network :=
  match n.get? id with
  | none => (.error .brokenPipe, n)
  | some s =>
    if maxSent < descriptors.length then (.error .invalidArgument, n)
    else
      match s.peer with
      | none => (.error .notConnected, n)
      | some peer =>
        if s.sendShut then (.error .brokenPipe, n)
        else if data.isEmpty then (.ok 0, n)
        else if ((n.get? peer).map (·.receiveShut)).getD true then (.error .brokenPipe, n)
        else if n.hasRoom peer then
          let (taken, n) := (n.hold descriptors).enqueue peer data descriptors
          (.ok taken, n)
        else (.error .wouldBlock, n)

/-- End both directions of a connection. -/
def shutdown (id : SocketId) (n : Network) : Network :=
  match n.get? id with
  | none => n
  | some s =>
    hangUp false s.peer (n.modify id ({ · with sendShut := true, receiveShut := true }))

/-- End the direction to the peer. -/
def finishSending (id : SocketId) (n : Network) : Network :=
  match n.get? id with
  | none => n
  | some s =>
    let n := n.modify id ({ · with sendShut := true })
    match s.peer with
    | none => n
    | some peer => n.modify peer ({ · with receiveShut := true })

/-- The system measures timeouts in units of this. -/
def tick : Duration := .ofMillis 4

/-- A timeout as the system keeps it: whole ticks, and at least one, for its whole microseconds. -/
def inTicks (d : Duration) : Duration :=
  ⟨Segment.roundUp tick.nanos (max 1000 (d.nanos / 1000 * 1000))⟩

/-- A timeout as the system takes it: none at all, or more than nothing. -/
def timeout? (timeout : Option Duration) : Except SocketError (Option Duration) :=
  if timeout = some ⟨0⟩ then .error (.io .zeroTimeout) else .ok (timeout.map inTicks)

/-- Bound each read on a socket. -/
def setReadTimeout (id : SocketId) (timeout : Option Duration) (n : Network) :
    Except SocketError Unit × Network :=
  match timeout? timeout with
  | .error e => (.error e, n)
  | .ok kept => (.ok (), n.modify id ({ · with readTimeout := kept }))

/-- Bound each write on a socket. -/
def setWriteTimeout (id : SocketId) (timeout : Option Duration) (n : Network) :
    Except SocketError Unit × Network :=
  match timeout? timeout with
  | .error e => (.error e, n)
  | .ok kept => (.ok (), n.modify id ({ · with writeTimeout := kept }))

/-- Whether the other end of the connection belongs to a known process. -/
def hasPeer (id : SocketId) (n : Network) : Bool :=
  ((n.get? id).bind (·.peer)).isSome

end Network

end Framecast
