import Framecast.Wire.Header
import Framecast.Clock.Follower
import Framecast.Memory.Buffer
import Framecast.Frame.Backlog
import Framecast.Frame.Error
import Framecast.Result
import Framecast.Socket.Transfer

/-!
# Rebuilding frames

A deframer collects bytes and the descriptors that came with them until they make a frame. It asks
for no more bytes than the current frame lacks, so that a descriptor stays with the header it rode
on. Descriptors that no frame takes over have to be closed: the operations hand them back as
`released`.

One call of `pull` reads at most once. `parse` is the part that looks at what is there, `absorb`
the part that takes in what one read brought.
-/

namespace Framecast

/-- What a receiver accepts, and when its clock takes samples. -/
structure DeframerConfig where
  maxInline : Word := 0x1000000
  clock : ClockConfig := {}
  deriving DecidableEq, Repr, Inhabited

/-- A frame as a receiver hands it out. -/
structure Frame where
  header : Header
  /-- The payload, with its presentation time in the receiver's terms. -/
  buffer : Buffer
  deriving DecidableEq, Repr

/-- What one attempt to receive a frame came to. -/
inductive FrameOutcome where
  | frame (frame : Frame)
  /-- A frame has begun, or none has; more bytes are needed. -/
  | needMoreData
  | endOfStream
  | flushing
  deriving DecidableEq, Repr

/-- The receiving end of a stream: the bytes and descriptors that were received and belong to no
frame yet, and what is needed to tell when a frame was captured. -/
structure Deframer where
  config : DeframerConfig := {}
  backlog : Backlog := .empty
  /-- Descriptors received with those bytes. -/
  pending : List Descriptor := []
  clock : ClockFollower := { config := config.clock }
  /-- Time of the master at which presentation time was zero, if known. -/
  baseTime : Option Word := none
  /-- Which socket the buffered bytes came from, once noted. -/
  stream : Option Nat := none
  /-- Frames captured before the base time. -/
  clamped : Nat := 0
  deriving Repr, Inhabited

namespace Deframer

/-- The bytes that were received and belong to no frame yet. -/
def buffered (d : Deframer) : Bytes :=
  d.backlog.toBytes

/-- The header of the current frame, once all of it is there. -/
def header? (d : Deframer) : Option Header :=
  Header.decode? (d.backlog.take Header.length)

/-- The most bytes that are asked for while the size of the next frame is not known. -/
def readChunk : Nat := 65536

/-- Bytes still missing of the current frame, but at most one read chunk. -/
def wanted (d : Deframer) : Nat :=
  match d.header? with
  | none => Header.length - d.backlog.length
  | some h =>
    if h.isInline then
      let total : Word := Word.satAdd 24 h.payloadSize
      min (total.satSub (UInt64.ofNat d.backlog.length)).toNat readChunk
    else 0

/-- Whether something was received that belongs to no frame yet. -/
def hasPartial (d : Deframer) : Bool :=
  !d.backlog.isEmpty || !d.pending.isEmpty

/-- Take in what was received. -/
def push (bytes : Bytes) (descriptors : List Descriptor) (d : Deframer) : Deframer :=
  { d with backlog := d.backlog.push bytes, pending := d.pending ++ descriptors }

/-- Drop what is held of a frame; the descriptors are released. -/
def reset (d : Deframer) : Deframer × List Descriptor :=
  ({ d with backlog := .empty, pending := [] }, d.pending)

/-- Note which socket the next bytes come from. Bytes of one socket never complete a frame that
another began. -/
def setStream (stream : Nat) (d : Deframer) : Deframer × List Descriptor :=
  match d.stream with
  | none => ({ d with stream := some stream }, [])
  | some current =>
    if current = stream then (d, [])
    else
      let (d, released) := d.reset
      ({ d with stream := some stream }, released)

/-- The presentation time for a capture timestamp. A frame from before the base time is shown at
once and counted. -/
def presentation (now : Readings) (timestamp : Word) (d : Deframer) : Option Word × Deframer :=
  if timestamp = 0 then (none, d)
  else
    let d := { d with clock := d.clock.sync now }
    let time := d.clock.adjust timestamp
    match d.baseTime with
    | none => (some 0, d)
    | some base =>
      match time.sub? base with
      | some running => (some running, d)
      | none => (some 0, { d with clamped := d.clamped + 1 })

/-- The region that a referenced frame speaks of. It takes exactly one descriptor, of a file in
which the region lies. -/
def region (h : Header) (descriptors : List Descriptor) : Except Corruption Region :=
  match descriptors with
  | [descriptor] =>
    match h.payloadEnd? with
    | none => .error .rangeOverflow
    | some finish =>
      let actual := descriptor.fileSize
      if actual < finish then .error (.shortFile actual finish)
      else .ok ⟨descriptor, h.payloadOffset, h.payloadSize, true⟩
  | _ => .error (.descriptorCount descriptors.length)

/-- What looking for a frame came to: a frame, nothing yet, an error or a panic. -/
structure Parsed where
  result : Result FrameError (Option Frame)
  deframer : Deframer
  released : List Descriptor := []

/-- Hand out a frame with its presentation time. -/
def finish (now : Readings) (h : Header) (memory : Memory) (d : Deframer) : Parsed :=
  let (pts, d) := d.presentation now h.captureTimestamp
  ⟨.ok (some ⟨h, ⟨memory, pts⟩⟩), d, []⟩

/-- Complete an inline frame of which every byte is there. -/
def finishInline (now : Readings) (h : Header) (size : Nat) (d : Deframer) : Parsed :=
  let payload := d.backlog.slice Header.length size
  let strays := d.pending
  let d := { d with backlog := d.backlog.drop (Header.length + size), pending := [] }
  if strays.isEmpty then d.finish now h (.heap payload)
  else ⟨.error (.corrupt (.strayDescriptors strays.length)), d, strays⟩

/-- Complete a frame whose payload is behind a descriptor. -/
def finishReferenced (now : Readings) (h : Header) (d : Deframer) : Parsed :=
  let trailing := d.backlog.length - Header.length
  let descriptors := d.pending
  let d := { d with backlog := .empty, pending := [] }
  if trailing ≠ 0 then ⟨.error (.corrupt (.trailingBytes trailing)), d, descriptors⟩
  else
    match region h descriptors with
    | .error c => ⟨.error (.corrupt c), d, descriptors⟩
    | .ok r => d.finish now h (.region r)

/-- Look for a frame in what is held. A corrupt frame is consumed, so that the next call starts at
a fresh header; an inline payload that is too large stays and is refused again. Where a frame ends
is found with a plain addition: if the sum is no word, the call panics and leaves what is held. -/
def parse (now : Readings) (d : Deframer) : Parsed :=
  match d.header? with
  | none => ⟨.ok none, d, []⟩
  | some h =>
    if h.isInline then
      if d.config.maxInline < h.payloadSize then
        ⟨.error (.payloadTooLarge h.payloadSize d.config.maxInline), d, []⟩
      else
        match Word.add? 24 h.payloadSize with
        | none => ⟨.panic Word.addOverflow, d, []⟩
        | some total =>
          if d.backlog.length < total.toNat then ⟨.ok none, d, []⟩
          else d.finishInline now h h.payloadSize.toNat
    else d.finishReferenced now h

/-- What one call that may receive came to. -/
structure Step where
  result : Result FrameError FrameOutcome
  deframer : Deframer
  released : List Descriptor := []
  deriving Inhabited

/-- A parse as one step of a receiver. Without a frame, more data is needed. -/
def Parsed.toStep (p : Parsed) : Step :=
  ⟨p.result.map fun
    | some frame => .frame frame
    | none => .needMoreData, p.deframer, p.released⟩

/-- Take in what one read brought and look for a frame. No bytes end the stream and drop what is
held of a frame. -/
def absorb (now : Readings) (arrival : Arrival) (d : Deframer) : Step :=
  if arrival.bytes.isEmpty then
    let (d, released) := d.reset
    ⟨.ok .endOfStream, d, released ++ arrival.descriptors⟩
  else ((d.push arrival.bytes arrival.descriptors).parse now).toStep

/-- Receive at most once and try to complete a frame. -/
def pull {m : Type → Type} [Monad m] (now : Readings) (receive : Receiver m) (d : Deframer) :
    m Step := do
  let parsed := d.parse now
  match parsed.result with
  | .error _ => return parsed.toStep
  | .panic _ => return parsed.toStep
  | .ok (some _) => return parsed.toStep
  | .ok none =>
    match ← receive d.wanted with
    | .error e => return ⟨.error (.ofIo e), d, []⟩
    | .ok arrival => return d.absorb now arrival

/-- Receive until a frame is complete, at most so many times more. The steps are counted. -/
def pullMore {m : Type → Type} [Monad m] (now : Readings) (receive : Receiver m) :
    Nat → (count : Nat) → Step → m (Step × Nat)
  | 0, count, step => return (step, count)
  | times + 1, count, step => do
    match step.result with
    | .ok .needMoreData =>
      let next ← step.deframer.pull now receive
      pullMore now receive times (count + 1) { next with released := step.released ++ next.released }
    | _ => return (step, count)

/-- Receive until a frame is complete, at most so many times and at least once. -/
def pullTimes {m : Type → Type} [Monad m] (now : Readings) (receive : Receiver m) (times : Nat)
    (d : Deframer) : m (Step × Nat) := do
  pullMore now receive (times - 1) 1 (← d.pull now receive)

end Deframer

end Framecast
