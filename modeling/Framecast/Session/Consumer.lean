import Framecast.Session.Attachment
import Framecast.Session.Link

/-!
# Consumers

A consumer reads frames over a link of its own. It attaches when it is started, and again whenever
the socket of its link has ended: `reattach` is the end-of-stream handler of the link. What it gets
is noted and read from at once; an attach that fails changes nothing.
-/

namespace Framecast

/-- What a consumer needs of the place where it is. -/
structure ConsumerHost (m : Type → Type) where
  /-- Ask the service for a socket. -/
  attach : m (Except SessionError Attachment)
  /-- Note the capabilities of the stream. -/
  noteCaps : String → m Unit
  /-- Read from this socket from now on. -/
  install : Descriptor → m Unit
  deframer : m Deframer
  putDeframer : Deframer → m Unit
  readings : m Readings
  release : List Descriptor → m Unit

namespace Consumer

variable {m : Type → Type} [Monad m] (host : ConsumerHost m)

/-- Note what the service gave, and read from it. -/
def adopt (a : Attachment) : m Unit := do
  host.noteCaps a.caps
  host.install a.channel

/-- Attach again, after the socket has ended. -/
def reattach : m Unit := do
  match ← host.attach with
  | .error _ => return
  | .ok a => adopt host a

/-- Attach, and read from what the service gives. -/
def start : m (Except SessionError String) := do
  match ← host.attach with
  | .error e => return .error e
  | .ok a =>
    adopt host a
    return .ok a.caps

/-- Receive at most once. There is no result if the frame is still incomplete. -/
def turn (receive : Nat → m (Except SessionError Received)) :
    m (Unit ⊕ Result SessionError FrameOutcome) := do
  let d ← host.deframer
  let (result, d, released) ← d.pullOver host.readings receive
  host.release released
  host.putDeframer d
  match result with
  | .ok .needMoreData => return .inl ()
  | result => return .inr result

end Consumer

end Framecast
