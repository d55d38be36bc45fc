import Framecast.Memory.Descriptor
import Framecast.IoError

/-!
# Regions

A region is a byte range of a file that is reachable only through its descriptor. Nothing checks at
first that the range lies in the file: mapping it can fail, and `fitsFile` says when it is inside.
-/

namespace Framecast

/-- A byte range behind a descriptor. -/
structure Region where
  descriptor : Descriptor
  offset : Word
  size : Word
  /-- A region received from a peer is never written to. -/
  readonly : Bool := false
  deriving DecidableEq, Repr, Inhabited

namespace Region

/-- How large the file behind a region is. -/
def fileSize (r : Region) : Word :=
  r.descriptor.fileSize

/-- Whether a region lies within its file. -/
def fitsFile (r : Region) : Bool :=
  r.offset.toNat + r.size.toNat ≤ r.fileSize.toNat

/-- The bytes that a region shows, where it can be mapped. -/
def contents (r : Region) : Bytes :=
  match r.descriptor.file? with
  | some f => f.read r.offset.toNat r.size.toNat
  | none => []

/-- Bytes in a page of memory. -/
def pageSize : Nat := 4096

/-- Most bytes in a row that a process finds unused in its memory. -/
def largestGap : Nat := 0x555555544000

/-- The last position that can be mapped: a pipe has any, everything else as many as a file. -/
def lastPosition : Descriptor → Nat
  | .pipe => 0xffffffffffffffff
  | .file _ | .socket _ | .foreignSocket => 0x7fffffffffffffff

/-- Why the range cannot be mapped, if so. A range of no bytes needs no mapping. Whole pages are
mapped, and all of their positions have to exist before it is asked what kind of thing is mapped. -/
def mapError? (r : Region) : Option IoError :=
  let lead := r.offset.toNat % pageSize
  let length := (r.size.toNat + lead + (pageSize - 1)) / pageSize * pageSize
  let lastPage := (lastPosition r.descriptor - length) / pageSize
  if r.size = 0 then none
  else if 0x8000000000000000 ≤ r.size.toNat then
    some (.described .invalidData "memory map length overflows isize")
  else if largestGap < length then some .outOfMemory
  else if lastPage < r.offset.toNat / pageSize then some .valueTooLarge
  else if r.descriptor.file?.isNone then some .noDevice
  else none

/-- Map the range; the answer is the number of bytes visible through the mapping. -/
def map (r : Region) : Except IoError Word :=
  match r.mapError? with
  | some e => .error e
  | none => .ok r.size

/-- Map a region and read what it shows. -/
def toBytes (r : Region) : Except IoError Bytes :=
  r.map.map fun _ => r.contents

end Region

end Framecast
