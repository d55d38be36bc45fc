import Framecast.Json.Fault
import Framecast.Checkpoint
import Framecast.Frame.Error

/-!
# Session errors

What can go wrong between a producer and its consumers: the socket, a frame, or the attach exchange
in which a consumer gets its socket.
-/

namespace Framecast

/-- Why an attach request was turned down, or its answer not accepted. -/
inductive Refusal where
  /-- The peer closed before a whole line arrived. -/
  | closedEarly
  | tooLong (limit : Nat)
  | unknownMethod (name : String)
  | noCaps
  /-- The answer carries other descriptors than one socket at handle zero. -/
  | descriptors (count handle : Nat)
  | injected (fault : InjectedFault)
  /-- A cause given in words. -/
  | stated (text : String)
  deriving DecidableEq, Repr

namespace Refusal

/-- Why a peer refused, in words. -/
def message : Refusal → String
  | closedEarly => "connection closed before a complete message"
  | tooLong limit => "message exceeds " ++ toString limit ++ " bytes"
  | unknownMethod name => "unknown method: " ++ name
  | noCaps => "reply carries no caps"
  | descriptors count handle =>
    "expected one descriptor at handle 0, got " ++ toString count ++ " (handle " ++
      toString handle ++ ")"
  | injected fault => fault.message
  | stated text => text

end Refusal

/-- Why something between a producer and its consumers failed. -/
inductive SessionError where
  | socket (error : SocketError)
  | frame (error : FrameError)
  /-- No capabilities became known in time. -/
  | capsTimeout (after : Duration)
  | refused (refusal : Refusal)
  /-- The peer did not answer in time. -/
  | timedOut (after : Duration)
  | malformed (fault : Json.Fault)
  deriving DecidableEq, Repr, Inhabited

namespace SessionError

/-- A failed read or write of a conversation with bounded patience. -/
def ofIo (patience : Duration) (e : IoError) : SessionError :=
  if e.kind = .wouldBlock ∨ e.kind = .timedOut then timedOut patience else socket (.io e)

/-- Whether only the current frame was lost. -/
def isLocal : SessionError → Bool
  | frame e => e.isLocal
  | _ => false

/-- Whether trying to attach again later may help: the endpoint is not there yet. -/
def isRetryable : SessionError → Bool
  | socket (.connect _ e) => e.kind = .notFound || e.kind = .connectionRefused
  | _ => false

/-- The error of the system behind a failure, if one is known. -/
def cause? : SessionError → Option IoError
  | socket e => e.cause?
  | frame e => e.cause?
  | _ => none

/-- The class of an error. -/
def name : SessionError → String
  | socket e => "Transport." ++ e.name
  | frame e => "Frame." ++ e.name
  | capsTimeout _ => "HandshakeTimeout"
  | refused _ => "HandshakeFailed"
  | timedOut _ => "Timeout"
  | malformed fault => "Json." ++ fault.faultClass.name

/-- An error in words. -/
def message : SessionError → String
  | socket e => "transport error: " ++ e.message
  | frame e => "frame error: " ++ e.message
  | capsTimeout after => "no capabilities available after " ++ after.text
  | refused r => "attach failed: " ++ r.message
  | timedOut after => "request timed out after " ++ after.text
  | malformed fault => "json error: " ++ fault.message

end SessionError

end Framecast
