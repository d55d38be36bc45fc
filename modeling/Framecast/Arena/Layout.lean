import Framecast.Word

/-!
# Layout of an allocation

Where the visible range of an allocation starts in its backing file and how long the file is. All
arithmetic is on words and refuses to overflow.
-/

namespace Framecast.Arena

/-- The next multiple of `mask + 1`, unless a word overflows on the way. -/
def pad (offset mask : Word) : Option Word := do
  let unit ← mask.add? 1
  let reach ← offset.add? mask
  return reach / unit * unit

/-- How the visible range is to lie in the backing file. -/
structure Params where
  /-- Alignment mask for the start of the visible range. -/
  align : Word := 0
  /-- Bytes before the visible range. -/
  lead : Word := 0
  /-- Bytes behind it. -/
  padding : Word := 0
  deriving DecidableEq, Repr, Inhabited

/-- Where the visible range starts and how long the backing file is. -/
structure Layout where
  offset : Word
  capacity : Word
  deriving DecidableEq, Repr, Inhabited

/-- The layout for a visible range of so many bytes, in whole pages; a page has `pageMask + 1`
bytes. There is none if a word overflows on the way. -/
def layout? (pageMask size : Word) (params : Params) : Option Layout := do
  let offset ← pad params.lead params.align
  let used ← size.add? offset
  let padded ← used.add? params.padding
  let capacity ← pad padded pageMask
  return ⟨offset, capacity⟩

end Framecast.Arena
