import Framecast.Machine.Servers

/-!
# Resources

What is open on a machine and keeps other things open: a producer keeps its fan-out, a consumer its
link and the service behind it. `collect` closes everything that nothing in use keeps open.
-/

namespace Framecast

/-- Something that is open on a machine, by its number. -/
inductive Resource where
  | fanout (id : Nat)
  | producer (id : Nat)
  | roster (id : Nat)
  | link (id : Nat)
  | consumer (id : Nat)
  | listener (id : Nat)
  deriving DecidableEq, Repr

namespace Service

/-- What a service uses on the machine. -/
def resources : Service → List Resource
  | producer id => [.producer id]
  | roster id => [.roster id]
  | client .. | retrying .. => []

end Service

namespace AttachServer

/-- What a server uses on the machine. -/
def resources (s : AttachServer) : List Resource :=
  .listener s.listener :: s.service.resources

end AttachServer

namespace Machine

/-- What a resource keeps open. -/
def keeps (m : Machine) : Resource → List Resource
  | .fanout _ | .listener _ => []
  | .producer id => (m.producers.get? id).toList.map fun p => .fanout p.fanout
  | .roster id => ((m.rosters.get? id).getD {}).items.flatMap fun
    | .via service => service.resources
    | .refuse _ | .give .. => []
  | .link id =>
    match (m.links.get? id).bind (·.handler) with
    | some (.reattach consumer) => [.consumer consumer]
    | _ => []
  | .consumer id =>
    (m.consumers.get? id).toList.flatMap fun c => .link c.link :: c.service.resources

/-- All that is open on the machine. -/
def resources (m : Machine) : List Resource :=
  m.fanouts.ids.map .fanout ++ m.producers.ids.map .producer ++ m.rosters.ids.map .roster ++
    m.links.ids.map .link ++ m.consumers.ids.map .consumer ++ m.listeners.ids.map .listener

/-- What some resources keep open in so many steps, and what is known to be kept open already. -/
def reach (m : Machine) : (steps : Nat) → (found kept : List Resource) → List Resource
  | 0, _, kept => kept
  | steps + 1, found, kept =>
    let fresh := (found.filter fun r => !kept.contains r).eraseDups
    if fresh.isEmpty then kept else m.reach steps (fresh.flatMap m.keeps) (fresh ++ kept)

/-- Close a roster, and the sockets that it would have given out. -/
def closeRoster (id : Nat) : Activity Unit := do
  let items := (((← get).rosters.get? id).getD {}).items
  modify fun m => { m with rosters := m.rosters.erase id }
  release (items.filterMap fun
    | .give socket _ => some (.socket socket)
    | .via _ | .refuse _ => none)

/-- Close a fan-out, and its clients' sockets with it. -/
def closeFanout (id : Nat) : Activity Unit := do
  let clients := (← get).clients id
  modify fun m => { m with fanouts := m.fanouts.erase id }
  release (clients.map fun c => .socket c.socket)

/-- Close one thing on the machine, whatever it is. -/
def closeResource : Resource → Activity Unit
  | .fanout id => closeFanout id
  | .producer id => modify fun m => { m with producers := m.producers.erase id }
  | .roster id => closeRoster id
  | .link id => closeLink id
  | .consumer id => closeConsumer id
  | .listener id => unlisten id

/-- Close everything but what is in use and what that keeps open. -/
def collect (inUse : List Resource) : Activity Unit := do
  let m ← get
  let kept := m.reach (m.resources.length + 1) inUse []
  (m.resources.filter fun r => !kept.contains r).forM closeResource

end Machine

end Framecast
