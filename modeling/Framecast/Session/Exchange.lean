import Framecast.Session.Attachment
import Framecast.Session.Line

/-!
# The attach exchange

A consumer asks for a socket and a producer's server answers: `ask` is the consumer's side of the
conversation, `handle` the server's. The socket travels as the only descriptor of the answer. A
server that cannot deliver an answer takes the attachment back, so that no consumer stays half
registered.
-/

namespace Framecast

/-- How long each part of an exchange may take, and how long its lines may be. -/
structure EndpointConfig where
  /-- Bound on each read or write. -/
  timeout : Duration := .ofSeconds 5
  /-- How long a client waits for the answer. -/
  replyTimeout : Duration := .ofSeconds 25
  maxMessage : Nat := 4096
  deriving DecidableEq, Repr, Inhabited

/-- One end of a conversation: its two directions, how long a call on each of them waits, and how to
close it and descriptors that nobody wants. -/
structure Channel (m : Type → Type) where
  receive : Receiver m
  send : Sender m
  setReadTimeout : Option Duration → m (Except SocketError Unit)
  setWriteTimeout : Option Duration → m (Except SocketError Unit)
  close : m Unit
  release : List Descriptor → m Unit

/-- Bound how long both directions wait. -/
def Channel.setTimeouts {m : Type → Type} [Monad m] (io : Channel m) (timeout : Option Duration) :
    m (Except SocketError Unit) := do
  match ← io.setReadTimeout timeout with
  | .error e => return .error e
  | .ok () => io.setWriteTimeout timeout

/-- Where a server gets attachments from, and what becomes of them. -/
structure AttachSource (m : Type → Type) where
  attach : m (Except SessionError Attachment)
  /-- The attachment was delivered. -/
  keep : Attachment → m Unit
  /-- The attachment could not be delivered. -/
  takeBack : Attachment → m Unit

namespace Exchange

variable {m : Type → Type} [Monad m]

/-- Send an error as the answer; the request has failed with `cause` even if that works. -/
def answerError (config : EndpointConfig) (io : Channel m) (text : String) (cause : SessionError) :
    m (Except SessionError Unit) := do
  let line := asLine (AttachAnswer.encode { error := some text })
  match ← Line.write io.send config.timeout line [] with
  | .error e => return .error e
  | .ok () => return .error cause

/-- Send an attachment to the peer. One that cannot be sent is taken back. -/
def deliver (config : EndpointConfig) (io : Channel m) (service : AttachSource m) (a : Attachment) :
    m (Except SessionError Unit) := do
  let line := asLine (AttachAnswer.encode { caps := some a.caps, handle := some a.handle })
  match ← Line.write io.send config.timeout line [a.channel] with
  | .error e =>
    service.takeBack a
    return .error e
  | .ok () =>
    service.keep a
    return .ok ()

/-- Answer one request: read its line, attach, and send what came of it. -/
def answer (config : EndpointConfig) (io : Channel m) (service : AttachSource m) :
    m (Except SessionError Unit) := do
  let (line, strays) ← Line.read io.receive config.maxMessage config.timeout
  io.release strays
  match line.map AttachRequest.decode with
  | .error e => return .error e
  | .ok (.error fault) =>
    answerError config io ("invalid request: " ++ fault.message) (.malformed fault)
  | .ok (.ok request) =>
    if request = .attach then
      match ← service.attach with
      | .ok a => deliver config io service a
      | .error e => answerError config io e.message e
    else
      let refusal := Refusal.unknownMethod request.method
      answerError config io refusal.message (.refused refusal)

/-- Answer the request on a connection, and close it. -/
def handle (config : EndpointConfig) (io : Channel m) (service : AttachSource m) :
    m (Except SessionError Unit) := do
  match ← io.setTimeouts (some config.timeout) with
  | .error e =>
    io.close
    return .error (.socket e)
  | .ok () =>
    let result ← answer config io service
    io.close
    return result

/-- The attachment that an answer and its descriptors stand for. -/
def accept (a : AttachAnswer) (descriptors : List Descriptor) : Except Refusal Attachment :=
  match a.error with
  | some text => .error (.stated text)
  | none =>
    match a.caps with
    | none => .error .noCaps
    | some caps =>
      let handle := a.handle.getD 0
      match descriptors with
      | [channel] =>
        if handle = 0 then .ok { channel := channel, caps := caps }
        else .error (.descriptors 1 handle)
      | _ => .error (.descriptors descriptors.length handle)

/-- The attachment that was asked for, or why there is none, from the line of the answer and the
descriptors that came with it. -/
def conclude (line : Except SessionError Bytes) (descriptors : List Descriptor) :
    Except SessionError Attachment :=
  match line.map AttachAnswer.decode with
  | .error e => .error e
  | .ok (.error fault) => .error (.malformed fault)
  | .ok (.ok a) => (accept a descriptors).mapError .refused

/-- Ask for an attachment and wait for the answer. -/
def request (config : EndpointConfig) (io : Channel m) : m (Except SessionError Attachment) := do
  match ← Line.write io.send config.timeout (asLine AttachRequest.attach.encode) [] with
  | .error e => return .error e
  | .ok () =>
    match ← io.setReadTimeout (some config.replyTimeout) with
    | .error e => return .error (.socket e)
    | .ok () =>
      let (line, descriptors) ← Line.read io.receive config.maxMessage config.replyTimeout
      let result := conclude line descriptors
      if result.isOk then return result
      else
        io.release descriptors
        return result

/-- Ask for an attachment over a connection, and close it. -/
def ask (config : EndpointConfig) (io : Channel m) : m (Except SessionError Attachment) := do
  match ← io.setTimeouts (some config.timeout) with
  | .error e =>
    io.close
    return .error (.socket e)
  | .ok () =>
    let result ← request config io
    io.close
    return result

end Exchange

end Framecast
