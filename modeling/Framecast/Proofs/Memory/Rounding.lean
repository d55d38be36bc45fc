import Framecast.Proofs.Memory.Layout
import Mathlib.Algebra.Ring.Nat
import Mathlib.Order.Bounds.Basic

/-!
# Rounding up at the end of the words

`pad` gives the least multiple of its unit from an offset on, whatever the unit, and gives nothing
when its sum is no word. For a unit that is a power of two nothing is lost by that: then the least
multiple is no word either (`pad_isLeast`).
-/

namespace Framecast.Arena

/-- The multiples of `unit` from `n` on. -/
def multiplesFrom (unit n : Nat) : Set Nat :=
  {m | unit ∣ m ∧ n ≤ m}

variable {offset mask r : Word} {unit n m : Nat}

/-- Rounding up gives the least multiple that is no less. -/
theorem RoundsTo.isLeast (h : RoundsTo unit n m) : IsLeast (multiplesFrom unit n) m :=
  ⟨⟨h.dvd, h.le⟩, fun _ hk => h.le_of_dvd hk.1 hk.2⟩

/-- Padding gives the least multiple that is no less. -/
theorem isLeast_of_pad (h : pad offset mask = some r) :
    IsLeast (multiplesFrom (mask.toNat + 1) offset.toNat) r.toNat :=
  (pad_eq_some_iff.mp h).2.2.isLeast

theorem pad_eq_none_iff_top :
    pad offset mask = none ↔
      mask = Word.top ∨ 0x10000000000000000 ≤ offset.toNat + mask.toNat := by
  have hmask := mask.toNat_lt
  have htop : mask = Word.top ↔ 0x10000000000000000 ≤ mask.toNat + 1 := by
    rw [← UInt64.toNat_inj, Word.toNat_top]
    omega
  rw [pad_eq_none_iff, htop]

theorem add_le_of_dvd (hm : unit ∣ m) (hn : unit ∣ n) (h : m < n) : m + unit ≤ n := by
  have hgap : unit ≤ n - m := Nat.le_of_dvd (Nat.sub_pos_of_lt h) (Nat.dvd_sub hn hm)
  omega

/-- A power of two divides the number of words, so that a multiple which is a word leaves room for
another unit. -/
theorem pad_eq_none_iff_of_pow {k : Nat} (hk : k < 64) (hunit : mask.toNat + 1 = 2 ^ k) :
    pad offset mask = none ↔
      ∃ m, IsLeast (multiplesFrom (mask.toNat + 1) offset.toNat) m ∧
        0x10000000000000000 ≤ m := by
  have hround := roundsTo_div_mul offset.toNat mask.toNat
  generalize (offset.toNat + mask.toNat) / (mask.toNat + 1) * (mask.toNat + 1) = least at hround
  have hwords : mask.toNat + 1 ∣ 0x10000000000000000 := by
    rw [hunit]
    exact Nat.pow_dvd_pow 2 (Nat.le_of_lt hk)
  have hsmall : mask.toNat + 1 < 0x10000000000000000 := by
    rw [hunit]
    exact Nat.pow_lt_pow_right (by decide) hk
  have hlarge : 0x10000000000000000 ≤ offset.toNat + mask.toNat ↔ 0x10000000000000000 ≤ least := by
    have hle := hround.le
    have hlt := hround.lt
    constructor
    · intro hsum
      apply Nat.le_of_not_lt
      intro hfits
      have hroom := add_le_of_dvd hround.dvd hwords hfits
      omega
    · intro hbeyond
      omega
  rw [pad_eq_none_iff, or_iff_right (Nat.not_le.mpr hsmall), hlarge]
  constructor
  · intro hbeyond
    exact ⟨least, hround.isLeast, hbeyond⟩
  · rintro ⟨m, hm, hbeyond⟩
    rw [hround.isLeast.unique hm]
    exact hbeyond

/-- **Rounding up.** What `pad` gives is the least multiple of the unit from the offset on. It gives
nothing exactly when the unit or the offset with the mask is no word, which for a power of two as
unit is the case exactly when that least multiple is no word. It is monotone in the offset, and what
it gave it gives again, as long as its sum is a word. -/
theorem pad_isLeast (mask : Word) :
    (∀ offset r, pad offset mask = some r →
      IsLeast (multiplesFrom (mask.toNat + 1) offset.toNat) r.toNat) ∧
    (∀ offset, pad offset mask = none ↔
      mask = Word.top ∨ 0x10000000000000000 ≤ offset.toNat + mask.toNat) ∧
    (∀ k, k < 64 → mask.toNat + 1 = 2 ^ k → ∀ offset, pad offset mask = none ↔
      ∃ m, IsLeast (multiplesFrom (mask.toNat + 1) offset.toNat) m ∧ 0x10000000000000000 ≤ m) ∧
    (∀ a b r s, a ≤ b → pad a mask = some r → pad b mask = some s → r ≤ s) ∧
    (∀ offset r, pad offset mask = some r → r.toNat + mask.toNat < 0x10000000000000000 →
      pad r mask = some r) := by
  refine ⟨fun _ _ => isLeast_of_pad, fun _ => pad_eq_none_iff_top, ?_, ?_, ?_⟩
  · intro k hk hunit offset
    exact pad_eq_none_iff_of_pow hk hunit
  · intro a b r s hab hr hs
    obtain ⟨hdvd, hle⟩ := (isLeast_of_pad hs).1
    rw [UInt64.le_iff_toNat_le] at hab ⊢
    exact (isLeast_of_pad hr).2 ⟨hdvd, Nat.le_trans hab hle⟩
  · intro offset r hr hsum
    obtain ⟨hunit, -, hround⟩ := pad_eq_some_iff.mp hr
    have hsame : RoundsTo (mask.toNat + 1) r.toNat r.toNat :=
      ⟨hround.dvd, Nat.le_refl _, Nat.lt_add_of_pos_right (Nat.succ_pos _)⟩
    exact pad_eq_some_iff.mpr ⟨hunit, hsum, hsame⟩

/-- A unit that is no power of two: the largest word is a multiple of three, and is not found. -/
example : pad Word.top 2 = none ∧ 3 ∣ Word.top.toNat := by
  decide

end Framecast.Arena
