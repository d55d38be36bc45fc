import Framecast.Memory.Descriptor
import Framecast.IoError

/-!
# Transfers

What the framing layer sees of a socket: one call sends bytes, with descriptors riding on the first
of them, and one call receives. Both are functions in whatever monad the socket lives in. A call
that the system interrupted is simply repeated; `uninterrupted` does so for a socket that is a state
with a measure of how often it can still be interrupted.
-/

namespace Framecast

/-- What one send asks for. -/
structure SendCall where
  data : Bytes
  /-- Descriptors that ride on the first byte. -/
  descriptors : List Descriptor := []
  blocking : Bool := true
  deriving DecidableEq, Repr

/-- Bytes received together with the descriptors that rode on them. No bytes at all mean the end
of the stream. -/
structure Arrival where
  bytes : Bytes
  descriptors : List Descriptor := []
  deriving DecidableEq, Repr, Inhabited

/-- A socket that can be written to: the answer is the number of bytes taken. -/
abbrev Sender (m : Type → Type) := SendCall → m (Except IoError Nat)

/-- A socket that can be read from, at most so many bytes at a time. -/
abbrev Receiver (m : Type → Type) := Nat → m (Except IoError Arrival)

theorem bind_apply {ω α β : Type} (call : StateM ω α) (next : α → StateM ω β) (w : ω) :
    (call >>= next) w = next (call w).1 (call w).2 := rfl

/-- Whether a call was interrupted before it did anything. -/
def interrupted {α : Type} : Except IoError α → Bool
  | .error e => e.kind = .interrupted
  | .ok _ => false

/-- Repeat a call until it is not interrupted. The measure bounds how often that can happen. -/
def uninterrupted {ω α : Type} (call : ω → Except IoError α × ω) (patience : ω → Nat)
    (decreases : ∀ w, interrupted (call w).1 = true → patience (call w).2 < patience w)
    (w : ω) : Except IoError α × ω :=
  if h : interrupted (call w).1 = true then
    have := decreases w h
    uninterrupted call patience decreases (call w).2
  else call w
termination_by patience w

end Framecast
