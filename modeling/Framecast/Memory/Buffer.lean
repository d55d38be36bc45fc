import Framecast.Memory.Region

/-!
# Buffers

A video buffer: bytes in ordinary memory or a region behind a descriptor, with a presentation
timestamp if one is known.
-/

namespace Framecast

/-- Where the bytes of a buffer are. -/
inductive Memory where
  | heap (bytes : Bytes)
  | region (region : Region)
  deriving DecidableEq, Repr

/-- A video frame with the time at which it is to be shown. -/
structure Buffer where
  memory : Memory
  /-- Presentation time in nanoseconds. -/
  pts : Option Word := none
  deriving DecidableEq, Repr

namespace Buffer

/-- How many bytes a buffer shows. -/
def size (b : Buffer) : Word :=
  match b.memory with
  | .heap bytes => UInt64.ofNat bytes.length
  | .region r => r.size

/-- Whether the bytes are shared through a descriptor. -/
def isShared (b : Buffer) : Bool :=
  match b.memory with
  | .heap _ => false
  | .region _ => true

/-- The bytes of a buffer. To see those of a region, it has to be mapped. -/
def toBytes (b : Buffer) : Except IoError Bytes :=
  match b.memory with
  | .heap bytes => .ok bytes
  | .region r => r.toBytes

end Buffer

end Framecast
