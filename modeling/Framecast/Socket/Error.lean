import Framecast.IoError

/-!
# Socket errors

Why binding, connecting or talking over a socket failed, and the wording of each cause.
-/

namespace Framecast

/-- What can go wrong with a socket. -/
inductive SocketError where
  | bind (path : String) (cause : IoError)
  | connect (path : String) (cause : IoError)
  | accept (cause : IoError)
  | pair (cause : IoError)
  /-- A message that carries descriptors could not be sent. -/
  | attach (cause : IoError)
  | io (cause : IoError)
  | pathTooLong (path : String) (length limit : Nat)
  | notConnected
  | shutDown
  deriving DecidableEq, Repr, Inhabited

namespace SocketError

/-- The error of the system behind a failure, if one is known. -/
def cause? : SocketError → Option IoError
  | bind _ e | connect _ e | accept e | pair e | attach e | io e => some e
  | pathTooLong .. | notConnected | shutDown => none

/-- The class of an error. -/
def name : SocketError → String
  | bind .. => "Bind"
  | connect .. => "Connect"
  | accept _ => "Accept"
  | pair _ => "SocketPair"
  | attach _ => "FdAttach"
  | io _ => "Io"
  | pathTooLong .. => "PathTooLong"
  | notConnected => "NotConnected"
  | shutDown => "Shutdown"

/-- An error in words. -/
def message : SocketError → String
  | bind path e => "failed to bind to " ++ path ++ ": " ++ e.message
  | connect path e => "failed to connect to " ++ path ++ ": " ++ e.message
  | accept e => "failed to accept connection: " ++ e.message
  | pair e => "failed to create socket pair: " ++ e.message
  | attach e => "failed to attach file descriptor: " ++ e.message
  | io e => "transport I/O error: " ++ e.message
  | pathTooLong path length limit =>
    "socket path too long (" ++ toString length ++ " bytes, max " ++ toString limit ++ "): " ++ path
  | notConnected => "no socket connected"
  | shutDown => "transport shut down"

end SocketError

end Framecast
