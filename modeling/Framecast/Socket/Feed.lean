import Framecast.Socket.Transfer

/-!
# Scripted messages

A socket whose messages are fixed in advance. One receive takes from the first message as much as
it asked for; the descriptors of a message come with its first bytes. When nothing is left, a
receive would block.
-/

namespace Framecast

/-- One message of a scripted socket. -/
inductive FeedItem where
  | message (data : Bytes) (descriptors : List Descriptor)
  | failure (error : IoError)
  | endOfStream
  deriving DecidableEq, Repr

/-- What a scripted socket brings, in order. -/
abbrev Feed := List FeedItem

namespace Feed

/-- Take what is next, up to a size. Descriptors come with the first byte of their message. -/
def receive (size : Nat) : Feed → Except IoError Arrival × Feed
  | [] => (.error (.bare .wouldBlock), [])
  | .failure e :: rest => (.error e, rest)
  | .endOfStream :: rest => (.ok ⟨[], []⟩, rest)
  | .message data descriptors :: rest =>
    let left := data.drop size
    (.ok ⟨data.take size, descriptors⟩,
      if left.isEmpty then rest else .message left [] :: rest)

theorem length_receive_lt {size : Nat} {feed : Feed}
    (h : interrupted (receive size feed).1 = true) :
    (receive size feed).2.length < feed.length := by
  match feed with
  | [] => simp [receive, interrupted, IoError.kind] at h
  | .failure _ :: _ => simp [receive]
  | .endOfStream :: _ => simp [receive, interrupted] at h
  | .message _ _ :: _ => simp [receive, interrupted] at h

/-- A socket that brings what was scripted. Interrupted calls are made again. -/
def receiver : Receiver (StateM Feed) := fun size feed =>
  uninterrupted (receive size) List.length (fun _ h => length_receive_lt h) feed

end Feed

end Framecast
