import Framecast.Clock.Follower

/-!
# Manual clocks

Clocks that stand still until they are moved. Like every clock they count in words, so moving one
past the largest word wraps around.
-/

namespace Framecast

/-- Clocks that show what they were told to. -/
structure ManualClocks where
  internal : Word := 0
  masters : List Word := []
  deriving DecidableEq, Repr, Inhabited

namespace ManualClocks

/-- What the clocks show. A master that does not exist shows zero. -/
def readings (c : ManualClocks) : Readings :=
  ⟨c.internal, fun i => c.masters.getD i 0⟩

/-- A time that much later, which wraps as a word does. -/
def later (d : Duration) (time : Word) : Word :=
  time + UInt64.ofNat d.nanos

/-- Set the internal clock. -/
def moveInternal (f : Word → Word) (c : ManualClocks) : ManualClocks :=
  { c with internal := f c.internal }

/-- Set one of the masters' clocks. -/
def moveMaster (i : Nat) (f : Word → Word) (c : ManualClocks) : ManualClocks :=
  { c with masters := c.masters.modify i f }

end ManualClocks

end Framecast
