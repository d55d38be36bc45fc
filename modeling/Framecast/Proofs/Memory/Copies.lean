import Framecast.Memory.Buffer
import Framecast.Proofs.Memory.Contents

/-!
# Copies in the arena

A copy that the arena hands out lies at the start of a backing file that is long enough for it, and
mapping it shows exactly the bytes that were copied.
-/

namespace Framecast

namespace Arena

/-- What a copy is: a file that starts with the bytes, and the range in which they are visible. -/
structure Copies (bytes : Bytes) (a : Allocation) : Prop where
  offset : a.offset = 0
  size : a.size.toNat = bytes.length
  contents : a.file.read 0 bytes.length = bytes
  fits : bytes.length ≤ a.file.size
  short : a.file.size ≤ Region.largestGap

/-- A copy shows the bytes that were copied. -/
theorem allocateCopy_ok {bytes : Bytes} {arena arena' : Arena} {names names' : NameSpace}
    {a : Allocation} (hlen : bytes.length < 0x10000000000000000)
    (h : arena.allocateCopy bytes names = (.ok a, arena', names')) : Copies bytes a := by
  obtain ⟨hheld, a₀, hallocate, hsame⟩ :=
    Allocation.holds_allocateCopyWith File.getsOn_nil hlen h
  have hstart : a₀.offset.toNat < 1 := (Allocation.holds_allocate hallocate).2.start.lt
  have hoffset : a.offset = 0 := by
    rw [hsame]
    exact UInt64.toNat_inj.mp (Nat.lt_one_iff.mp hstart)
  have hview := hheld.view
  rw [Allocation.view, hoffset, ← hheld.length] at hview
  refine ⟨hoffset, hheld.length.symm, hview, ?_, ?_⟩
  · rw [hheld.fileSize, hheld.length]
    exact Nat.le_of_add_left_le hheld.fits
  · rw [hheld.fileSize]
    exact hheld.short

variable {bytes : Bytes} {a : Allocation}

theorem Copies.fileSize (ha : Copies bytes a) : a.handOff.fileSize.toNat = a.file.size := by
  have hgap : Region.largestGap = 0x555555544000 := rfl
  have hshort := ha.short
  show (UInt64.ofNat a.file.size).toNat = a.file.size
  rw [UInt64.toNat_ofNat']
  omega

/-- A copy can be mapped. -/
theorem Copies.mapError? (ha : Copies bytes a) : a.handOff.mapError? = none := by
  have hshort := ha.short
  have hfits := ha.fits
  refine Region.mapError?_file ?_
  rw [ha.offset, ha.size, UInt64.toNat_zero]
  omega

/-- What is read of a copy is what was copied. -/
theorem Copies.toBytes (ha : Copies bytes a) : a.handOff.toBytes = .ok bytes := by
  have hcontents : a.handOff.contents = bytes := by
    show a.file.read a.offset.toNat a.size.toNat = bytes
    rw [ha.offset, ha.size]
    exact ha.contents
  rw [Region.toBytes, Region.map, ha.mapError?, hcontents]
  rfl

end Arena

end Framecast
