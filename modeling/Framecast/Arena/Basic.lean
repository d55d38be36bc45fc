import Framecast.Arena.Layout
import Framecast.Arena.NameSpace

/-!
# The arena

An arena hands out allocations, each a backing file of its own that no directory names any more. An
allocation has a visible range inside its file; it can be written to until it is handed off as a
region. Nothing is pooled: whoever still holds an old region never sees it change.
-/

namespace Framecast

namespace Arena

/-- An allocation that failed: what was asked for and why it was not given. -/
structure AllocationError where
  size : Word
  cause : IoError
  deriving DecidableEq, Repr

/-- The error of an allocation whose padded size is no word. -/
def overflow : IoError := .described .invalidInput "allocation size overflows"

/-- A backing file with its visible range, exclusively owned. -/
structure Allocation where
  file : File
  offset : Word
  size : Word
  /-- Length of the backing file. -/
  capacity : Word
  deriving DecidableEq, Repr, Inhabited

namespace Allocation

/-- The bytes that the holder of an allocation sees. -/
def view (a : Allocation) : Bytes :=
  a.file.read a.offset.toNat a.size.toNat

/-- Write somewhere into the visible range, up to its end. -/
def poke (start : Nat) (data : Bytes) (a : Allocation) : Allocation :=
  { a with file := a.file.write (a.offset.toNat + start) (data.take (a.size.toNat - start)) }

/-- Write one byte over all that the holder sees. -/
def fill (byte : UInt8) (a : Allocation) : Allocation :=
  { a with file := a.file.overwrite a.offset.toNat (.run byte a.size.toNat) }

/-- Why the visible range cannot be had in memory, if so. The whole file is mapped for it; a range
of no bytes needs no mapping. -/
def sliceError? (a : Allocation) : Option IoError :=
  if a.size = 0 then none else Region.mapError? ⟨.file a.file, 0, a.capacity, false⟩

/-- The visible range in memory. A mapping shows what the file holds, so that it does not matter
when it was made. -/
def slice (a : Allocation) : Except IoError Bytes :=
  match a.sliceError? with
  | some e => .error e
  | none => .ok a.view

/-- Change the visible range in memory. -/
def inPlace (change : Allocation → Allocation) (a : Allocation) : Except IoError Allocation :=
  match a.sliceError? with
  | some e => .error e
  | none => .ok (change a)

/-- The error of a write that would leave the visible bytes. -/
def pastEnd : IoError := .described .invalidInput "write past end of arena region"

/-- Where a write ends, clipped to the range of words. -/
def finish (start : Word) (data : Bytes) : Word :=
  (start.add? (UInt64.ofNat data.length)).getD Word.top

/-- Write at a place of the visible range while the system answers so; a write that would pass the
end of the range is refused whole. -/
def writeAtWith (answers : List (Except IoError Nat)) (start : Word) (data : Bytes)
    (a : Allocation) : Except IoError Unit × Allocation :=
  if a.size < finish start data then (.error pastEnd, a)
  else
    let (result, file) := a.file.writeAll answers (a.offset.toNat + start.toNat) data
    (result, { a with file := file })

/-- Write at a place of the visible range, where the system takes everything at once. -/
def writeAt (start : Word) (data : Bytes) (a : Allocation) : Except IoError Allocation :=
  match a.writeAtWith [] start data with
  | (.error e, _) => .error e
  | (.ok (), a) => .ok a

/-- A write either lies within the visible bytes and is made, or it changes nothing. -/
theorem writeAt_eq (start : Word) (data : Bytes) (a : Allocation) :
    a.writeAt start data =
      if a.size < finish start data then .error pastEnd
      else .ok { a with file := a.file.write (a.offset.toNat + start.toNat) data } := by
  unfold writeAt writeAtWith
  by_cases h : a.size < finish start data
  · rw [if_pos h, if_pos h]
  · rw [if_neg h, if_neg h]
    rfl

/-- Give the allocation up as a region that can be shared. -/
def handOff (a : Allocation) : Region :=
  ⟨.file a.file, a.offset, a.size, false⟩

end Allocation

end Arena

/-- Pages have 4096 bytes where nothing else is known of them. -/
def Arena.standardPageBits : Fin 63 := ⟨12, Nat.le_of_ble_eq_true rfl⟩

/-- Where and under which names backing files are made, and how many there were. -/
structure Arena where
  directory : String := "/dev/shm"
  /-- What every name starts with. -/
  stem : String := "framecast"
  allocations : Nat := 0
  /-- A page of memory has two to this power bytes. -/
  pageBits : Fin 63 := Arena.standardPageBits
  deriving DecidableEq, Repr, Inhabited

namespace Arena

/-- Bytes in a page of memory. -/
def pageSize (arena : Arena) : Nat :=
  Nat.pow 2 arena.pageBits

/-- A page less one byte: the bits of a size that lie within a page. -/
def pageMask (arena : Arena) : Word :=
  UInt64.ofNat (arena.pageSize - 1)

/-- Allocate a visible range of so many bytes, all zero. The file is known by the last number that
was drawn. -/
def allocate (size : Word) (params : Params) (arena : Arena) (names : NameSpace) :
    Except AllocationError Allocation × Arena × NameSpace :=
  match layout? arena.pageMask size params with
  | none => (.error ⟨size, overflow⟩, arena, names)
  | some layout =>
    match names.createUnlinked arena.directory arena.stem with
    | (.error e, names) => (.error ⟨size, e⟩, arena, names)
    | (.ok (), names) =>
      let arena := { arena with allocations := arena.allocations + 1 }
      match names.storage.makeFile names.counter layout.capacity with
      | .error e => (.error ⟨size, e⟩, arena, names)
      | .ok file => (.ok ⟨file, layout.offset, size, layout.capacity⟩, arena, names)

/-- Allocate a visible range for the bytes and write them to it, while the system answers so. -/
def allocateCopyWith (answers : List (Except IoError Nat)) (bytes : Bytes) (arena : Arena)
    (names : NameSpace) : Except AllocationError Allocation × Arena × NameSpace :=
  let size := UInt64.ofNat bytes.length
  match arena.allocate size {} names with
  | (.ok a, rest) =>
    match a.file.writeAll answers a.offset.toNat bytes with
    | (.error e, _) => (.error ⟨size, e⟩, rest)
    | (.ok (), file) => (.ok { a with file := file }, rest)
  | failed => failed

/-- Allocate a visible range for the bytes, where the system takes them all at once. -/
def allocateCopy (bytes : Bytes) (arena : Arena) (names : NameSpace) :
    Except AllocationError Allocation × Arena × NameSpace :=
  arena.allocateCopyWith [] bytes names

end Arena

end Framecast
