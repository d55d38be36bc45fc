import Framecast.Machine.Links

/-!
# Servers of a machine

Servers answer one request for each connection: `handle` on a connection that was accepted,
`serveOne` on the next one, `serve` on one after the other until it is told to stop.
-/

namespace Framecast.Machine

/-- Answer the request on a connection, and close it. -/
def handle (server : AttachServer) (socket : SocketId) : Activity (Except SessionError Unit) :=
  Exchange.handle server.config (channel socket) (attachSource server.service)

/-- Bind a server to a path. -/
def bindServer (path : String) (service : Service) (config : EndpointConfig) :
    Activity (Except SessionError AttachServer) := do
  match ← listen path Listener.defaultMode with
  | .error e => return .error (.socket e)
  | .ok listener => return .ok ⟨listener, service, config⟩

/-- Accept one connection and answer its request. -/
def serveOne (server : AttachServer) : Activity (Except SessionError Unit) := do
  match ← accept server.listener none with
  | some socket => handle server socket
  | none => return .error (.socket .notConnected)

/-- Answer requests until the flag is raised. What becomes of each does not matter. -/
def serve (server : AttachServer) (stop : Nat) : Activity Unit :=
  Activity.iterate (fun () => do
    Activity.await (fun m => m.isRaised stop || m.hasCaller server.listener) none
    if (← get).isRaised stop then return .inr ()
    else
      if let some socket ← acceptNow server.listener then
        let _ ← handle server socket
      return .inl ()) ()

/-- A flag that is not raised yet. -/
def newFlag : Activity Nat :=
  modifyGet fun m =>
    let (id, flags) := m.flags.insert false
    (id, { m with flags := flags })

/-- Have something done on a thread of its own. -/
def request (job : Job) : Activity Unit :=
  modify fun m => { m with jobs := m.jobs ++ [job] }

/-- Raise a flag. It stays raised. -/
def raise (flag : Nat) : Activity Unit :=
  modify fun m => { m with flags := m.flags.modify flag fun _ => true }

end Framecast.Machine

namespace Framecast

/-- Do what was requested. -/
def Job.run : Job → Activity Unit
  | .serve server stop finished => do
    Machine.serve server stop
    Machine.raise finished
  | .cancelWhen flag link => do
    Activity.await (·.isRaised flag) none
    Machine.cancel link

end Framecast
