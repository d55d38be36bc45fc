import Framecast.Files.Tree
import Framecast.Memory.Descriptor
import Framecast.Socket.Error

/-!
# Listeners

A listener is a socket with a place in the tree of files, where connections find it. It knows which
entry it created: dropping it removes exactly that entry, and never another one that took its place.
-/

namespace Framecast

/-- A socket that is bound to a path, with the connections that wait to be accepted. -/
structure Listener where
  path : String
  /-- The entry that the listener created. -/
  inode : Nat
  /-- Connections that nobody accepted yet, oldest first. -/
  backlog : List SocketId := []
  deriving DecidableEq, Repr, Inhabited

namespace Listener

/-- The path of a socket must be shorter than this many bytes. -/
def pathLimit : Nat := 108

/-- A listener's socket is its owner's alone, if nothing else was asked for. -/
def defaultMode : Nat := 0o600

/-- Make room for a socket: an old socket at the path goes, anything else stays. -/
def clearStale (path : String) (t : FileTree) : Except IoError FileTree :=
  match t.lookup path with
  | .error e => if e.kind = .notFound then .ok t else .error e
  | .ok none => .ok t
  | .ok (some entry) =>
    if entry.kind = .socket then (t.unlink path).map Prod.snd
    else .error (.described .alreadyExists "existing path is not a unix socket")

/-- Bind a listener to a path. A stale socket in its place is removed first. -/
def bind (path : String) (mode : Nat) (t : FileTree) : Except SocketError (Listener × FileTree) :=
  if pathLimit ≤ path.utf8ByteSize then .error (.pathTooLong path path.utf8ByteSize pathLimit)
  else
    let created : Except IoError (Entry × FileTree) := do
      let t ← clearStale path t
      t.create path .socket (mode % 0o10000)
    match created with
    | .error e => .error (.bind path e)
    | .ok (entry, t) => .ok (⟨path, entry.inode, []⟩, t)

/-- Whether the entry at a listener's path is the one it created. -/
def owns (l : Listener) (t : FileTree) : Bool :=
  match t.find? l.path with
  | some entry => entry.kind = .socket && entry.inode == l.inode
  | none => false

/-- Remove the entry of a listener, if it is still its own. -/
def cleanUp (l : Listener) (t : FileTree) : FileTree :=
  if l.owns t then
    match t.unlink l.path with
    | .ok ((), t) => t
    | .error _ => t
  else t

/-- The entry that a connection to a path leads to. -/
def target (path : String) (t : FileTree) : Except IoError Entry :=
  if Path.hasNul path then
    .error (.described .invalidInput "paths must not contain interior null bytes")
  else if pathLimit ≤ path.utf8ByteSize then
    .error (.described .invalidInput "path must be shorter than SUN_LEN")
  else if path.isEmpty then .error .invalidArgument
  else
    match t.lookup path with
    | .error e => .error e
    | .ok none => .error .notFound
    | .ok (some entry) =>
      if !entry.isWritable then .error .permissionDenied
      else if entry.kind = .socket then .ok entry
      else .error .connectionRefused

end Listener

end Framecast
