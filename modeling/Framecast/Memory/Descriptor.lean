import Framecast.Memory.File

/-!
# Descriptors

What a process can hold open and pass to another over a socket: a regular file, a socket, or a
pipe. Passing a descriptor shares what it refers to; nothing is copied.
-/

namespace Framecast

/-- The number of a socket on its machine. -/
abbrev SocketId := Nat

/-- What a file descriptor refers to. -/
inductive Descriptor where
  | file (file : File)
  | socket (id : SocketId)
  /-- A socket that is connected to nothing on this machine. -/
  | foreignSocket
  | pipe
  deriving DecidableEq, Repr, Inhabited

namespace Descriptor

/-- The file behind a descriptor, if it is one. -/
def file? : Descriptor → Option File
  | file f => some f
  | _ => none

/-- The size the system reports; only regular files have one. -/
def fileSize : Descriptor → Word
  | file f => UInt64.ofNat f.size
  | _ => 0

/-- The socket behind a descriptor, if it is one of this machine. -/
def socket? : Descriptor → Option SocketId
  | socket id => some id
  | _ => none

end Descriptor

end Framecast
