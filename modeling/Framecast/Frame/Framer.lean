import Framecast.Wire.Header
import Framecast.Clock.Follower
import Framecast.Checkpoint
import Framecast.Memory.Buffer
import Framecast.Frame.Error

/-!
# Turning buffers into packets

A framer prepares buffers for the wire. A region is passed on as it is, by its descriptor; a small
heap buffer goes inline; a larger one is first copied into the arena. The header carries the
buffer's presentation time, moved by the base time and expressed in the sender's own clock.
-/

namespace Framecast

/-- How the payload of a packet travels. -/
inductive Payload where
  /-- Bytes that follow the header. -/
  | inlined (bytes : Bytes)
  /-- A descriptor that rides on the header. -/
  | attached (descriptor : Descriptor)
  deriving DecidableEq, Repr

/-- A frame ready to be written. -/
structure Packet where
  header : Header
  payload : Payload
  deriving DecidableEq, Repr

namespace Packet

/-- The descriptors that ride on the packet's first byte. -/
def descriptors (p : Packet) : List Descriptor :=
  match p.payload with
  | .inlined _ => []
  | .attached d => [d]

/-- The bytes behind the header. -/
def body (p : Packet) : Bytes :=
  match p.payload with
  | .inlined bytes => bytes
  | .attached _ => []

/-- All bytes of a packet, in the order in which they are sent. -/
def wire (p : Packet) : Bytes :=
  p.header.encode ++ p.body

end Packet

/-- How a sender frames its buffers. -/
structure FramerConfig where
  /-- Heap buffers up to this size are sent inline. -/
  inlineThreshold : Word := 0
  maxInline : Word := 0x1000000
  clock : ClockConfig := {}
  deriving DecidableEq, Repr, Inhabited

/-- The sending end: it makes a packet of every buffer, and counts those that were sent. -/
structure Framer where
  config : FramerConfig := {}
  arena : Arena := {}
  clock : ClockFollower := { config := config.clock }
  /-- Time of the master at which presentation time was zero. -/
  baseTime : Word := 0
  checkpoint : Checkpoint := .disabled Checkpoint.frameSendName
  /-- Frames of which every byte was taken by at least one socket. -/
  framesSent : Nat := 0
  deriving Repr, Inhabited

namespace Framer

/-- The capture timestamp of a buffer; zero if it has no presentation time. -/
def captureTimestamp (f : Framer) (pts : Option Word) : Word :=
  match pts with
  | some t => f.clock.unadjust (f.baseTime.satAdd t)
  | none => 0

/-- One packet more was sent. -/
def countSent (f : Framer) : Framer :=
  { f with framesSent := f.framesSent + 1 }

/-- The packet that passes a region on. -/
def shared (timestamp : Word) (r : Region) : Packet :=
  ⟨.referenced timestamp r.offset r.size, .attached r.descriptor⟩

/-- Make a packet of a buffer. A region is sent by its descriptor. A heap buffer up to the threshold
is sent inline, or refused if it is above the limit; a larger one is copied into a region first. -/
def prepare (now : Readings) (buffer : Buffer) (f : Framer) (names : Arena.NameSpace) :
    Except FrameError Packet × Framer × Arena.NameSpace :=
  let f := { f with clock := f.clock.sync now }
  let timestamp := f.captureTimestamp buffer.pts
  match buffer.memory with
  | .region r => (.ok (shared timestamp r), f, names)
  | .heap bytes =>
    let size : Word := UInt64.ofNat bytes.length
    if size ≤ f.config.inlineThreshold then
      if f.config.maxInline < size then (.error (.payloadTooLarge size f.config.maxInline), f, names)
      else (.ok ⟨.inlined timestamp size, .inlined bytes⟩, f, names)
    else
      match f.arena.allocateCopy bytes names with
      | (.error e, arena, names) => (.error (.ofAllocation e), { f with arena := arena }, names)
      | (.ok a, arena, names) => (.ok (shared timestamp a.handOff), { f with arena := arena }, names)

/-- Preparing a packet counts nothing as sent. -/
theorem framesSent_prepare (now : Readings) (buffer : Buffer) (f : Framer)
    (names : Arena.NameSpace) : (f.prepare now buffer names).2.1.framesSent = f.framesSent := by
  unfold prepare
  cases buffer.memory with
  | region r => rfl
  | heap bytes =>
    dsimp only
    split
    · split <;> rfl
    · split <;> rfl

end Framer

end Framecast
