import Framecast.Frame.Framer
import Framecast.Socket.Transfer

/-!
# Writing packets

A packet is written in order: the header, with the packet's descriptor riding on the first byte
taken, then the inline payload. A write that may give up does so only before its first byte; after
that it waits for room, so that no frame is left half sent while its socket works.
-/

namespace Framecast

/-- How a write that may give up ended. -/
inductive WriteOutcome where
  | written
  /-- There was no room for the first byte, and nothing was sent. -/
  | wouldBlock
  deriving DecidableEq, Repr

namespace Packet

variable {m : Type → Type} [Monad m]

/-- Write all of the bytes, without descriptors, waiting for room. -/
def sendAll (send : Sender m) (data : Bytes) : m (Except FrameError Unit) :=
  if data.isEmpty then pure (.ok ())
  else do
    match ← send { data := data } with
    | .error e => return .error (.ofIo e)
    | .ok taken =>
      if h : taken = 0 ∨ data = [] then return .error .closed
      else
        have := Bytes.length_drop_lt h
        sendAll send (data.drop taken)
termination_by data.length

/-- How a failure of the first send is reported: with descriptors, these were not attached. -/
def firstSendError (p : Packet) (e : IoError) : FrameError :=
  if p.descriptors.isEmpty then .ofIo e else .socket (.attach e)

/-- Write the packet; without `blocking`, give up if there is no room for its first byte. -/
def write (send : Sender m) (blocking : Bool) (p : Packet) :
    m (Except FrameError WriteOutcome) := do
  let header := p.header.encode
  match ← send ⟨header, p.descriptors, blocking⟩ with
  | .error e =>
    if !blocking && e.kind == .wouldBlock then return .ok .wouldBlock
    else return .error (p.firstSendError e)
  | .ok taken =>
    if taken = 0 then return .error .closed
    else
      match ← sendAll send (header.drop taken) with
      | .error e => return .error e
      | .ok () =>
        match ← sendAll send p.body with
        | .error e => return .error e
        | .ok () => return .ok .written

end Packet

/-- What a scripted socket was asked and what it answered. -/
structure SendRecord where
  call : SendCall
  answer : Except IoError Nat

/-- A socket whose answers are fixed in advance. When they are used up it takes everything. -/
structure SendScript where
  /-- The answers to come: a bound on the bytes taken, or an error. -/
  answers : List (Except IoError Nat)
  /-- Whether the socket knows no way to send without waiting. -/
  plain : Bool := false
  /-- The calls so far, last first. -/
  calls : List SendRecord := []

namespace SendScript

/-- The call as the socket sees it. -/
def seen (s : SendScript) (call : SendCall) : SendCall :=
  { call with blocking := call.blocking || s.plain }

/-- One call on a scripted socket, and the answer to it. -/
def answer (call : SendCall) (s : SendScript) : Except IoError Nat × SendScript :=
  let (reply, rest) := match s.answers with
    | [] => (.ok call.data.length, [])
    | .ok bound :: rest => (.ok (min bound call.data.length), rest)
    | .error e :: rest => (.error e, rest)
  (reply, { s with answers := rest, calls := ⟨s.seen call, reply⟩ :: s.calls })

theorem answers_length_lt {call : SendCall} {s : SendScript}
    (h : interrupted (s.answer call).1 = true) :
    (s.answer call).2.answers.length < s.answers.length := by
  unfold answer at h ⊢
  match hs : s.answers with
  | [] => rw [hs] at h; simp [interrupted] at h
  | .ok _ :: _ => rw [hs] at h; simp [interrupted] at h
  | .error _ :: _ => simp

/-- A socket that answers as its script says. Interrupted calls are made again. -/
def sender : Sender (StateM SendScript) := fun call s =>
  uninterrupted (answer call) (·.answers.length) (fun _ h => answers_length_lt h) s

end SendScript

/-- How sending a whole frame ended: the error, if it failed. -/
abbrev SendResult := Except FrameError Unit

namespace Framer

/-- Run the checkpoint; an injected failure looks like a failed send. The sleeps it asks for come
first. -/
def runCheckpoint (f : Framer) : List Duration × Except FrameError Unit × Framer :=
  let (sleeps, verdict, checkpoint) := f.checkpoint.check
  let f' := { f with checkpoint := checkpoint }
  match verdict with
  | .passed => (sleeps, .ok (), f')
  | .failed | .aborted => (sleeps, .error (.ofIo f.checkpoint.fault.toIoError), f')

theorem framesSent_runCheckpoint (f : Framer) :
    f.runCheckpoint.2.2.framesSent = f.framesSent := by
  unfold runCheckpoint
  generalize f.checkpoint.check = checked
  obtain ⟨sleeps, verdict, checkpoint⟩ := checked
  cases verdict <;> rfl

/-- Pass the checkpoint, make a packet of a buffer and write it. Only a packet that was written
whole counts as sent. -/
def sendFrame {m : Type → Type} [Monad m] (now : Readings) (send : Sender m) (buffer : Buffer)
    (f : Framer) (names : Arena.NameSpace) : m (SendResult × Framer × Arena.NameSpace) := do
  match f.runCheckpoint with
  | (_, .error e, f) => return (.error e, f, names)
  | (_, .ok (), f) =>
    match f.prepare now buffer names with
    | (.error e, f, names) => return (.error e, f, names)
    | (.ok packet, f, names) =>
      match ← packet.write send true with
      | .error e => return (.error e, f, names)
      | .ok _ => return (.ok (), f.countSent, names)

end Framer

end Framecast
