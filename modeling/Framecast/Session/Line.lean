import Framecast.Session.Error
import Framecast.Session.Message
import Framecast.Socket.Transfer

/-!
# Lines over a socket

Reading one line, in pieces of at most 512 bytes, and writing one. What a line may be does not
depend on the pieces in which it arrives, except that a line whose end comes with the piece that
passes the limit is still taken.
-/

namespace Framecast.Line

variable {m : Type → Type} [Monad m]

/-- The most bytes that one receive asks for while a line is read. -/
def chunkSize : Nat := 512

/-- Read up to the end of the line, given what was read before. The descriptors are those received
so far, whatever comes of the line. -/
def readFrom (receive : Receiver m) (limit : Nat) (patience : Duration) (line : Bytes)
    (descriptors : List Descriptor) : m (Except SessionError Bytes × List Descriptor) := do
  match ← receive chunkSize with
  | .error e => return (.error (.ofIo patience e), descriptors)
  | .ok arrival =>
    let received := descriptors ++ arrival.descriptors
    let longer := line ++ arrival.bytes
    if h : arrival.bytes = [] then return (.error (.refused .closedEarly), received)
    else if longer.contains newline then return (.ok (longer.takeWhile (· ≠ newline)), received)
    else if hlimit : limit < longer.length then
      return (.error (.refused (.tooLong limit)), received)
    else
      have : limit + 1 - (line.length + arrival.bytes.length) < limit + 1 - line.length := by
        have hpos := List.length_pos_iff.mpr h
        simp only [longer, List.length_append] at hlimit
        omega
      readFrom receive limit patience longer received
termination_by limit + 1 - line.length

/-- Read a line of at most about so many bytes, and the descriptors that came with it. -/
def read (receive : Receiver m) (limit : Nat) (patience : Duration) :
    m (Except SessionError Bytes × List Descriptor) :=
  readFrom receive limit patience [] []

/-- Write all of the bytes; the descriptors ride on the first of them. -/
def write (send : Sender m) (patience : Duration) (data : Bytes)
    (descriptors : List Descriptor) : m (Except SessionError Unit) :=
  if data.isEmpty then return .ok ()
  else do
    match ← send { data := data, descriptors := descriptors } with
    | .error e =>
      if descriptors.isEmpty then return .error (.ofIo patience e)
      else return .error (.socket (.attach e))
    | .ok taken =>
      if h : taken = 0 ∨ data = [] then return .error (.socket .notConnected)
      else
        have := Bytes.length_drop_lt h
        write send patience (data.drop taken) []
termination_by data.length

end Framecast.Line
