/-!
# Words

Unsigned 64-bit words are the unit of everything that travels in a frame header: timestamps,
offsets and sizes. Their plain operators wrap around, so the operations of this module say what
happens at the ends of the range: `add?` and `sub?` refuse a result that does not fit, `satAdd`
and `satSub` clip it. Each is pinned by one lemma in exact natural numbers.
-/

namespace Framecast

/-- Sizes, offsets and times are words of 64 bits. -/
abbrev Word := UInt64

namespace Word

/-- The largest word, `2 ^ 64 - 1`. -/
def top : Word := 0xFFFFFFFFFFFFFFFF

@[simp] theorem toNat_top : top.toNat = 0xffffffffffffffff := rfl

theorem toNat_le_top (a : Word) : a.toNat ≤ top.toNat := by
  have := a.toNat_lt
  simp only [toNat_top]
  omega

/-- The word of a natural number, clipped at `top`. -/
def ofNatSat (n : Nat) : Word :=
  if n < 0x10000000000000000 then UInt64.ofNat n else top

/-- The exact sum, when it fits a word. -/
def add? (a b : Word) : Option Word :=
  if a.toNat + b.toNat < 0x10000000000000000 then some (a + b) else none

/-- What an addition panics with whose sum is no word. -/
def addOverflow : String := "attempt to add with overflow"

/-- The difference, unless it would be below zero. -/
def sub? (a b : Word) : Option Word :=
  if b ≤ a then some (a - b) else none

/-- The sum, clipped at `top`. -/
def satAdd (a b : Word) : Word :=
  (a.add? b).getD top

/-- The difference, or zero where that would be below zero. -/
def satSub (a b : Word) : Word :=
  (a.sub? b).getD 0

theorem toNat_ofNatSat (n : Nat) : (ofNatSat n).toNat = min n 0xffffffffffffffff := by
  unfold ofNatSat
  split
  · rw [UInt64.toNat_ofNat']
    omega
  · rw [toNat_top]
    omega

/-- The sum is checked against the range of words. -/
theorem add?_eq_some_iff {a b c : Word} :
    a.add? b = some c ↔ a.toNat + b.toNat = c.toNat := by
  have hc := c.toNat_lt
  unfold add?
  split
  · rw [Option.some.injEq, ← UInt64.toNat_inj, UInt64.toNat_add]
    omega
  · simp only [reduceCtorEq, false_iff]
    omega

theorem add?_eq_none_iff {a b : Word} :
    a.add? b = none ↔ 0x10000000000000000 ≤ a.toNat + b.toNat := by
  unfold add?
  split
  · simp only [reduceCtorEq, false_iff]
    omega
  · simp only [true_iff]
    omega

/-- A sum stays at the greatest word. -/
theorem toNat_satAdd (a b : Word) :
    (a.satAdd b).toNat = min (a.toNat + b.toNat) 0xffffffffffffffff := by
  unfold satAdd add?
  split
  · rw [Option.getD_some, UInt64.toNat_add]
    omega
  · rw [Option.getD_none, toNat_top]
    omega

/-- A difference stays at zero. -/
theorem toNat_satSub (a b : Word) : (a.satSub b).toNat = a.toNat - b.toNat := by
  unfold satSub sub?
  split
  · rename_i h
    rw [Option.getD_some, UInt64.toNat_sub_of_le _ _ h]
  · rename_i h
    rw [UInt64.le_iff_toNat_le] at h
    rw [Option.getD_none, UInt64.toNat_zero]
    omega

end Word

end Framecast
