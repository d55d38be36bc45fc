import Framecast.Memory.Region

/-!
# Storage for backing files

A backing file gets its length from the system, which may refuse it. Blocks are reserved for the
whole file, so that no write into it runs out of space later; where the system cannot reserve any,
the length alone is set. What the system answers is a parameter.
-/

namespace Framecast.Arena

/-- What the system answers when a file is to get a length. The files are numbered. -/
structure Storage where
  /-- Whether it reserves so many bytes for a file. -/
  reserveBlocks : (number : Nat) → (length : Word) → Except IoError Unit
  /-- Whether it lets a file have this length without reserving anything. -/
  setLength : (number : Nat) → (length : Word) → Except IoError Unit
  /-- No file gets a length that a process could not map. -/
  mappable : ∀ number length, reserveBlocks number length = .ok () ∨
    setLength number length = .ok () → length.toNat ≤ Region.largestGap

namespace Storage

/-- A length that fits a file offset is granted up to so many bytes. -/
def grant (limit length : Word) : Except IoError Unit :=
  if 0x8000000000000000 ≤ length then .error .invalidArgument
  else if limit ≤ length then .error .storageFull
  else .ok ()

theorem lt_of_grant {limit length : Word} (h : grant limit length = .ok ()) : length < limit := by
  unfold grant at h
  split at h
  · cases h
  · split at h
    · cases h
    · rename_i hlt
      exact UInt64.not_le.mp hlt

/-- A terabyte of memory, which can be reserved. -/
def terabyte : Storage where
  reserveBlocks _ length := grant 0x10000000000 length
  setLength _ length := grant 0x10000000000 length
  mappable := by
    intro number length hgranted
    rw [or_self] at hgranted
    exact Nat.le_trans (Nat.le_of_lt (UInt64.lt_iff_toNat_lt.mp (lt_of_grant hgranted))) (by decide)

instance : Inhabited Storage := ⟨terabyte⟩

/-- The system has no way to reserve blocks for this file, or was interrupted in it. -/
def cannotReserve (e : IoError) : Bool :=
  e = .notSupported ∨ e = .notImplemented ∨ e = .interrupted

/-- The file of a number gets its length, which it has not yet; it is all zero. A file of no bytes
needs none. -/
def makeFile (number : Nat) (length : Word) (s : Storage) : Except IoError File :=
  if length = 0 then .ok (.zeros 0)
  else
    match s.reserveBlocks number length with
    | .ok () => .ok (.zeros length.toNat)
    | .error e =>
      if cannotReserve e then (s.setLength number length).map fun () => .zeros length.toNat
      else .error e

/-- A file that was made has the length that it was to have, and no process is too small to map
it. -/
theorem makeFile_ok {number : Nat} {length : Word} {s : Storage} {file : File}
    (h : s.makeFile number length = .ok file) :
    file = .zeros length.toNat ∧ length.toNat ≤ Region.largestGap := by
  unfold makeFile at h
  split at h
  · rename_i hzero
    cases h
    subst hzero
    exact ⟨rfl, Nat.zero_le _⟩
  · split at h
    · rename_i hreserved
      cases h
      exact ⟨rfl, s.mappable number length (.inl hreserved)⟩
    · split at h
      · cases hset : s.setLength number length with
        | error e =>
          rw [hset] at h
          cases h
        | ok granted =>
          rw [hset] at h
          cases h
          exact ⟨rfl, s.mappable number length (.inr hset)⟩
      · cases h

end Storage

end Framecast.Arena
