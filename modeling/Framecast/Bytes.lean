import Framecast.Word

/-!
# Bytes

Byte strings are lists of octets. A word is written as eight octets, the least significant first;
`toWord_ofWord` and `ofWord_toWord` say that reading and writing undo each other.
-/

namespace Framecast

/-- Bytes are kept as a list, which proofs can take apart. -/
abbrev Bytes := List UInt8

namespace Bytes

/-- The `count` low octets of a number, the least significant first. -/
def littleEndian : (count : Nat) → Nat → Bytes
  | 0, _ => []
  | count + 1, n => UInt8.ofNat n :: littleEndian count (n / 256)

/-- The number whose octets these are, the least significant first. -/
def value : Bytes → Nat
  | [] => 0
  | b :: bs => b.toNat + 256 * value bs

@[simp] theorem length_littleEndian (count n : Nat) :
    (littleEndian count n).length = count := by
  induction count generalizing n with
  | zero => rfl
  | succ count ih => simp [littleEndian, ih]

theorem value_lt (bs : Bytes) : value bs < Nat.pow 256 bs.length := by
  induction bs with
  | nil => exact Nat.one_pos
  | cons b bs ih =>
    have := b.toNat_lt
    rw [value, List.length_cons]
    show _ < Nat.pow 256 bs.length * 256
    omega

/-- What is read of the lowest bytes of a number is the number, as far as there is room for it. -/
theorem value_littleEndian (count n : Nat) :
    value (littleEndian count n) = n % Nat.pow 256 count := by
  induction count generalizing n with
  | zero => exact (Nat.mod_one n).symm
  | succ count ih =>
    have hpow : Nat.pow 256 (count + 1) = 256 * Nat.pow 256 count := Nat.mul_comm ..
    rw [littleEndian, value, ih, UInt8.toNat_ofNat', hpow, Nat.mod_mul]

/-- Bytes are the lowest bytes of what they stand for. -/
theorem littleEndian_value (bs : Bytes) : littleEndian bs.length (value bs) = bs := by
  induction bs with
  | nil => rfl
  | cons b bs ih =>
    have hb := b.toNat_lt
    have hmod : (b.toNat + 256 * value bs) % 2 ^ 8 = b.toNat := by omega
    have hdiv : (b.toNat + 256 * value bs) / 256 = value bs := by omega
    rw [value, List.length_cons, littleEndian, hdiv, ih]
    congr 1
    rw [← UInt8.toNat_inj, UInt8.toNat_ofNat', hmod]

/-- The eight bytes of a word, the lowest first. -/
def ofWord (w : Word) : Bytes :=
  littleEndian 8 w.toNat

/-- The word that up to eight bytes stand for, the lowest first. -/
def toWord (bs : Bytes) : Word :=
  UInt64.ofNat (value bs)

@[simp] theorem length_ofWord (w : Word) : (ofWord w).length = 8 :=
  length_littleEndian 8 w.toNat

/-- A word is read back from its bytes. -/
@[simp] theorem toWord_ofWord (w : Word) : toWord (ofWord w) = w := by
  have := w.toNat_lt
  have hpow : Nat.pow 256 8 = 0x10000000000000000 := rfl
  rw [toWord, ofWord, value_littleEndian, ← UInt64.toNat_inj, UInt64.toNat_ofNat', hpow]
  omega

/-- Eight bytes are the bytes of a word. -/
theorem ofWord_toWord {bs : Bytes} (h : bs.length = 8) : ofWord (toWord bs) = bs := by
  have hlt := value_lt bs
  have hpow : Nat.pow 256 8 = 0x10000000000000000 := rfl
  rw [h, hpow] at hlt
  have hval : (toWord bs).toNat = value bs := by
    rw [toWord, UInt64.toNat_ofNat']
    omega
  rw [ofWord, hval, ← h, littleEndian_value]

/-- The UTF-8 bytes of a text. -/
def ofText (text : String) : Bytes :=
  text.toUTF8.data.toList

/-- The text that the bytes are the UTF-8 form of, if they are one. -/
def toText? (bs : Bytes) : Option String :=
  String.fromUTF8? bs.toByteArray

theorem length_drop_lt {bs : Bytes} {taken : Nat} (h : ¬(taken = 0 ∨ bs = [])) :
    (bs.drop taken).length < bs.length := by
  have hne : 0 < bs.length := List.length_pos_iff.mpr fun hb => h (.inr hb)
  have htaken : taken ≠ 0 := fun ht => h (.inl ht)
  rw [List.length_drop]
  omega

/-- The bytes from `offset` on, at most `size` of them. -/
def slice (bs : Bytes) (offset size : Nat) : Bytes :=
  (bs.drop offset).take size

end Bytes

end Framecast
