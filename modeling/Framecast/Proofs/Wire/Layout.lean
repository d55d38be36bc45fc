import Mathlib.Algebra.Ring.Nat
import Framecast.Wire.Header

/-!
# Headers and their bytes

Where every octet of a header stands (`getElem?_encode`), and what follows from it for the mark of
an inline frame (`isInline_of_decode?`). Headers and strings of 24 bytes correspond one to one, with
whatever is around them (`codec_exact`).
-/

namespace Framecast

namespace Bytes

/-- The octet of a word with so many less significant ones below it. -/
def octet (w : Word) (below : Nat) : UInt8 :=
  UInt8.ofNat (w.toNat / 256 ^ below)

/-- The bytes of a number, from the lowest on. -/
theorem getElem?_littleEndian {count i : Nat} (h : i < count) (n : Nat) :
    (littleEndian count n)[i]? = some (UInt8.ofNat (n / 256 ^ i)) := by
  induction count generalizing n i with
  | zero => omega
  | succ count ih =>
    cases i with
    | zero => simp [littleEndian]
    | succ i =>
      rw [littleEndian, List.getElem?_cons_succ, ih (by omega), Nat.div_div_eq_div_mul,
        Nat.pow_succ']

theorem getElem?_ofWord {i : Nat} (h : i < 8) (w : Word) : (ofWord w)[i]? = some (octet w i) :=
  getElem?_littleEndian h w.toNat

theorem ofWord_top : ofWord Word.top = List.replicate 8 0xff := by
  decide

/-- The largest word is the one without a zero bit. -/
theorem toWord_eq_top_iff {bs : Bytes} (h : bs.length = 8) :
    toWord bs = Word.top ↔ ∀ b ∈ bs, b = 0xff := by
  have hfull : (∀ b ∈ bs, b = 0xff) ↔ bs = List.replicate 8 0xff := by
    rw [List.eq_replicate_iff]
    exact (and_iff_right h).symm
  rw [hfull, ← ofWord_top]
  constructor
  · intro htop
    rw [← htop, ofWord_toWord h]
  · intro hbytes
    rw [hbytes, toWord_ofWord]

end Bytes

namespace Header

/-- The words of a header in the order in which they are written. -/
def field (h : Header) : Fin 3 → Word
  | 0 => h.captureTimestamp
  | 1 => h.payloadOffset
  | 2 => h.payloadSize

theorem encode_eq (h : Header) :
    h.encode = Bytes.ofWord (h.field 0) ++ Bytes.ofWord (h.field 1) ++ Bytes.ofWord (h.field 2) :=
  rfl

/-- Each word has eight places, with its least significant octet first. -/
theorem getElem?_encode (h : Header) (k : Fin 3) (i : Fin 8) :
    h.encode[8 * k.val + i.val]? = some (Bytes.octet (h.field k) i) := by
  have hi := i.isLt
  have hword := Bytes.getElem?_ofWord hi (h.field k)
  rw [encode_eq]
  match k with
  | 0 =>
    rw [List.append_assoc, List.getElem?_append_left (by simp)]
    simpa using hword
  | 1 =>
    rw [List.append_assoc, List.getElem?_append_right (by simp),
      List.getElem?_append_left (by simp)]
    simpa using hword
  | 2 =>
    rw [List.getElem?_append_right (by simp)]
    simpa using hword

theorem length_slice_of_le {bs : Bytes} (h : length ≤ bs.length) :
    (bs.slice 8 8).length = 8 := by
  simp only [length] at h
  simp only [Bytes.slice, List.length_take, List.length_drop]
  omega

/-- A header announces an inline payload if its second word has all bits set. -/
theorem isInline_of_decode? {bs : Bytes} {h : Header} (hd : decode? bs = some h) :
    h.isInline = true ↔ ∀ b ∈ bs.slice 8 8, b = 0xff := by
  have hlen := length_le_of_decode? hd
  have hoffset : h.payloadOffset = Bytes.toWord (bs.slice 8 8) := by
    rw [decode?, if_neg (by omega), Option.some.injEq] at hd
    rw [← hd]
  rw [isInline, hoffset, inlineMark, beq_iff_eq, Bytes.toWord_eq_top_iff (length_slice_of_le hlen)]

/-- Enough bytes are always a header. -/
theorem decode?_of_le {bs : Bytes} (h : length ≤ bs.length) :
    ∃ header, decode? bs = some header := by
  rw [← Option.isSome_iff_exists, Option.isSome_iff_ne_none, ne_eq, decode?_eq_none_iff]
  omega

/-- **Writing and reading headers undo each other.** Behind whatever a buffer holds a header takes
24 bytes, each at its own place, and leaves the earlier ones alone; read back with anything behind
them, these bytes give the header. Any 24 bytes are the written form of the header that is read from
them, whatever follows them, and that header announces an inline payload exactly if the middle eight
have all bits set. From fewer bytes no header is read. -/
theorem codec_exact (h : Header) (buffer rest bs : Bytes) :
    ((h.appendTo buffer).take buffer.length = buffer ∧
      (h.appendTo buffer).length = buffer.length + 24 ∧
      (∀ (k : Fin 3) (i : Fin 8), (h.appendTo buffer)[buffer.length + (8 * k.val + i.val)]? =
        some (Bytes.octet (h.field k) i)) ∧
      decode? ((h.appendTo buffer).drop buffer.length ++ rest) = some h) ∧
    (24 ≤ bs.length → ∃ read, decode? bs = some read ∧ read.encode = bs.take 24 ∧
      (read.isInline = true ↔ ∀ b ∈ (bs.drop 8).take 8, b = 0xff)) ∧
    (bs.length < 24 → decode? bs = none) := by
  refine ⟨⟨?_, ?_, ?_, ?_⟩, ?_, decode?_eq_none_iff.mpr⟩
  · exact List.take_left
  · rw [appendTo, List.length_append, length_encode]
    rfl
  · intro k i
    rw [appendTo, List.getElem?_append_right (by omega), Nat.add_sub_cancel_left, getElem?_encode]
  · rw [appendTo, List.drop_left, decode?_encode]
  · intro hlen
    obtain ⟨read, hread⟩ := decode?_of_le hlen
    exact ⟨read, hread, (take_eq_encode_of_decode? hread).symm, isInline_of_decode? hread⟩

end Header

end Framecast
