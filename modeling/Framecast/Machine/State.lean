import Framecast.Socket.Listener
import Framecast.Socket.Network
import Framecast.Session.Consumer
import Framecast.Session.Exchange
import Framecast.Session.Producer

/-!
# The machine

Everything that the programs on one machine share: its clock, its sockets and paths, and the links,
fan-outs, producers, consumers and servers that are open on it, each under a number of its own.
-/

namespace Framecast

/-- Something that can be asked to attach. -/
inductive Service where
  | producer (id : Nat)
  | client (path : String) (config : EndpointConfig)
  /-- The same, trying again for some time while the server is not there. -/
  | retrying (path : String) (config : EndpointConfig) (patience : Duration)
  /-- Other services in turn. -/
  | roster (id : Nat)
  deriving Repr, Inhabited

/-- What a roster does on one turn. -/
inductive RosterItem where
  | via (service : Service)
  | refuse (error : SessionError)
  | give (socket : SocketId) (caps : String)
  deriving Repr

/-- What a service does for each attach in turn. -/
structure Roster where
  items : List RosterItem := []
  calls : Nat := 0
  deriving Repr, Inhabited

/-- What a scripted handler does once. -/
inductive EndAction where
  | install (socket : SocketId)
  | clear
  | cancel
  | nothing
  deriving DecidableEq, Repr

/-- What runs when the socket of a link has ended. -/
inductive EndHandler where
  /-- One action for each run, then nothing; the runs are counted. -/
  | script (actions : List EndAction) (calls : Nat)
  | reattach (consumer : Nat)
  deriving Repr

/-- A link and what runs when its socket has ended. -/
structure LinkSeat where
  link : Link := {}
  handler : Option EndHandler := none
  deriving Repr, Inhabited

/-- The sockets that the handler of a link would still install. -/
def LinkSeat.spare (seat : LinkSeat) : List Descriptor :=
  match seat.handler with
  | some (.script actions _) => actions.filterMap fun
    | .install socket => some (.socket socket)
    | .clear | .cancel | .nothing => none
  | some (.reattach _) | none => []

/-- Receives frames, attaching again when its producer goes away. -/
structure Consumer where
  service : Service
  link : Nat
  deframer : Deframer := {}
  caps : Option String := none
  deriving Repr, Inhabited

/-- A server: where it listens, and what it passes requests to. -/
structure AttachServer where
  listener : Nat
  service : Service
  config : EndpointConfig := {}
  deriving Repr, Inhabited

/-- Work that goes on beside the one who asked for it. -/
inductive Job where
  /-- Answer requests until the first flag is raised, then raise the second. -/
  | serve (server : AttachServer) (stop finished : Nat)
  /-- Make the reads of a link return once the flag is raised. -/
  | cancelWhen (flag link : Nat)
  deriving Repr

/-- A machine: its time, its files, its network, and all that is open on it. -/
structure Machine where
  /-- Time since the machine was started. -/
  now : Duration := ⟨0⟩
  network : Network := {}
  /-- The files of the machine, and the names under which backing files are made. -/
  names : Arena.NameSpace := {}
  listeners : Table Listener := {}
  /-- Capabilities of streams, once they are known. -/
  slots : Table (Option String) := {}
  flags : Table Bool := {}
  fanouts : Table Fanout := {}
  producers : Table Producer := {}
  rosters : Table Roster := {}
  links : Table LinkSeat := {}
  consumers : Table Consumer := {}
  /-- Jobs that were asked for and not begun. -/
  jobs : List Job := []
  deriving Inhabited

namespace Machine

/-- The time of the machine as its clocks show it. -/
def time (m : Machine) : Word :=
  UInt64.ofNat m.now.nanos

/-- The files of the machine. -/
def files (m : Machine) : FileTree :=
  m.names.files

/-- The machine with other files. -/
def withFiles (files : FileTree) (m : Machine) : Machine :=
  { m with names := { m.names with files := files } }

/-- What the clocks show: every clock counts from the start of the machine. -/
def readings (m : Machine) : Readings :=
  ⟨m.time, fun _ => m.time⟩

/-- A link of the machine. -/
def link (id : Nat) (m : Machine) : Link :=
  ((m.links.get? id).getD {}).link

/-- How often the scripted handler of a link has run, if the link has one. -/
def handlerCalls? (id : Nat) (m : Machine) : Option Nat :=
  match (m.links.get? id).bind (·.handler) with
  | some (.script _ calls) => some calls
  | _ => none

/-- Whether a read on a link would have to wait. -/
def isIdle (id : Nat) (m : Machine) : Bool :=
  let l := m.link id
  match l.socket with
  | some socket => !l.cancelled && !m.network.isReadable socket
  | none => false

/-- The capability string in a slot, if there is one. -/
def caps? (slot : Nat) (m : Machine) : Option String :=
  (m.slots.get? slot).join

/-- Whether a flag was raised. -/
def isRaised (flag : Nat) (m : Machine) : Bool :=
  (m.flags.get? flag).getD false

/-- A fan-out of the machine. -/
def fanout (id : Nat) (m : Machine) : Fanout :=
  (m.fanouts.get? id).getD {}

/-- The clients of a fan-out. -/
def clients (fanout : Nat) (m : Machine) : List FanoutClient :=
  (m.fanout fanout).clients

/-- A producer of the machine. -/
def producer (id : Nat) (m : Machine) : Producer :=
  (m.producers.get? id).getD default

/-- A consumer of the machine. -/
def consumer (id : Nat) (m : Machine) : Consumer :=
  (m.consumers.get? id).getD default

/-- A time that is so far away. -/
def after (d : Duration) (m : Machine) : Duration :=
  ⟨m.now.nanos + d.nanos⟩

end Machine

end Framecast
