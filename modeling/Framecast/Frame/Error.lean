import Framecast.Socket.Error
import Framecast.Arena.Basic

/-!
# Frame errors

What can go wrong with one frame. Some causes spoil only the frame they belong to, others the whole
stream; `isLocal` tells them apart.
-/

namespace Framecast

/-- Why a received frame was refused. -/
inductive Corruption where
  | strayDescriptors (count : Nat)
  | trailingBytes (count : Nat)
  /-- A frame that needs one descriptor came with another number of them. -/
  | descriptorCount (count : Nat)
  | rangeOverflow
  | shortFile (actual needed : Word)
  /-- A cause given in words. -/
  | stated (text : String)
  deriving DecidableEq, Repr, Inhabited

namespace Corruption

/-- What is wrong with a frame, in words. -/
def message : Corruption → String
  | strayDescriptors n => "inline frame carried " ++ toString n ++ " descriptor(s)"
  | trailingBytes n => toString n ++ " unexpected byte(s) after header"
  | descriptorCount n => "expected 1 descriptor, received " ++ toString n
  | rangeOverflow => "payload range overflows"
  | shortFile actual needed =>
    "backing file is " ++ toString actual.toNat ++ " bytes, payload needs " ++
      toString needed.toNat
  | stated text => text

end Corruption

/-- Why a frame could not be sent or received. -/
inductive FrameError where
  | allocation (size : Word) (cause : IoError)
  | corrupt (cause : Corruption)
  | payloadTooLarge (size limit : Word)
  | socket (error : SocketError)
  /-- The peer took no more bytes in the middle of a frame. -/
  | closed
  deriving DecidableEq, Repr, Inhabited

namespace FrameError

/-- An allocation failed while a frame was prepared. -/
def ofAllocation (e : Arena.AllocationError) : FrameError :=
  .allocation e.size e.cause

/-- A call on a socket failed. -/
def ofIo (e : IoError) : FrameError :=
  .socket (.io e)

/-- Whether the next frame on the same stream is unaffected. -/
def isLocal : FrameError → Bool
  | allocation .. | corrupt _ => true
  | payloadTooLarge .. | socket _ | closed => false

/-- The error of the system behind a failure, if one is known. -/
def cause? : FrameError → Option IoError
  | allocation _ e => some e
  | socket e => e.cause?
  | corrupt _ | payloadTooLarge .. | closed => none

/-- The class of an error. -/
def name : FrameError → String
  | allocation .. => "AllocationFailed"
  | corrupt _ => "CorruptFrame"
  | payloadTooLarge .. => "PayloadTooLarge"
  | socket e => "Transport." ++ e.name
  | closed => "ConnectionClosed"

/-- An error in words. -/
def message : FrameError → String
  | allocation size e =>
    "failed to allocate " ++ toString size.toNat ++ " byte region: " ++ e.message
  | corrupt c => "corrupt frame: " ++ c.message
  | payloadTooLarge size limit =>
    "inline payload too large (" ++ toString size.toNat ++ " bytes, max " ++
      toString limit.toNat ++ ")"
  | socket e => e.message
  | closed => "connection closed (incomplete frame)"

end FrameError

end Framecast
