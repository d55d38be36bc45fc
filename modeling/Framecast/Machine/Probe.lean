import Framecast.Machine.Servers

/-!
# Probes

Single conversations with a peer, for trying out the other side of an exchange: a request of any
bytes to a server, and an answer of any bytes to a client.
-/

namespace Framecast.Machine

/-- What a conversation with a server or a client came to. -/
structure Probed where
  reply : Bytes
  descriptors : Nat
  /-- How answering ended on the side of the server. -/
  served : Except SessionError Unit

/-- The path that a listener is bound to. -/
def pathOf (listener : Nat) (m : Machine) : String :=
  ((m.listeners.get? listener).map (·.path)).getD ""

/-- Send a request in one piece and let the server answer it; with `finish`, nothing can follow the
request. -/
def probeServer (server : AttachServer) (request : SendCall) (finish : Bool) :
    Activity (Except SocketError Probed) := do
  match ← connect ((← get).pathOf server.listener) with
  | .error e => return .error e
  | .ok client =>
    let _ ← send client request
    if finish then changeNetwork (·.finishSending client)
    let served ← serveOne server
    let (reply, _) ← receiveAll client
    release (.socket client :: reply.descriptors)
    return .ok ⟨reply.bytes, reply.descriptors.length, served⟩

/-- Receive without waiting, and close the descriptors that came. -/
def sample (socket : SocketId) : Receiver Activity := fun size => do
  let received ← tryReceive socket size
  release (received.toOption.getD default).descriptors
  return received

/-- Read until a line has ended or nothing more comes. -/
def readLine (socket : SocketId) : Activity Arrival :=
  Activity.iterate (fun (all : Arrival) => do
    if all.bytes.contains newline then return .inr all
    else
      match ← receive socket 512 with
      | .error _ => return .inr all
      | .ok arrival =>
        let all : Arrival :=
          ⟨all.bytes ++ arrival.bytes, all.descriptors ++ arrival.descriptors⟩
        return if arrival.bytes.isEmpty then .inr all else .inl all) ⟨[], []⟩

/-- Accept one connection, read a line and answer it in one piece, with some more descriptors that
are sockets of their own. The connection is closed after some time. The result is what was read. -/
def probeClient (listener : Nat) (reply : SendCall) (sockets : Nat) (linger : Duration) :
    Activity Bytes := do
  match ← accept listener none with
  | none => return []
  | some client =>
    let request ← readLine client
    let fresh ← (List.range sockets).mapM fun _ => return Descriptor.socket (← pair).1
    let _ ← send client { reply with descriptors := reply.descriptors ++ fresh }
    release (request.descriptors ++ fresh)
    Activity.sleep linger
    close client
    return request.bytes

/-- Send a socket over another one and receive it from that one's peer: the sockets that arrive. -/
def passSocket (socket carrier peer : SocketId) : Activity (List Descriptor) := do
  let _ ← send carrier ⟨[0], [.socket socket], true⟩
  close socket
  let arrived ← tryReceive peer 1
  return (arrived.toOption.map (·.descriptors)).getD []

end Framecast.Machine
