import Framecast.Bytes

/-!
# Frame headers

A frame starts with 24 bytes: capture timestamp, payload offset and payload size, each a word in
little-endian order. The offset `2 ^ 64 - 1` marks an inline frame, whose payload follows the
header; any other offset is a place in the backing file whose descriptor travels with the header.

`decode?_encode` and `take_eq_encode_of_decode?` say that writing and reading undo each other.
-/

namespace Framecast

/-- What stands before every frame on the wire. -/
structure Header where
  /-- Time of capture in the sender's clock; zero stands for unknown. -/
  captureTimestamp : Word
  /-- Place of the payload in its backing file, or `Header.inlineMark`. -/
  payloadOffset : Word
  payloadSize : Word
  deriving DecidableEq, Repr, Inhabited

namespace Header

/-- How many bytes a header takes. -/
def length : Nat := 24

/-- The offset of an inline payload. -/
def inlineMark : Word := Word.top

/-- The header of a frame whose payload follows it. -/
def inlined (captureTimestamp payloadSize : Word) : Header :=
  ⟨captureTimestamp, inlineMark, payloadSize⟩

/-- The header of a frame whose payload lies in a file. -/
def referenced (captureTimestamp payloadOffset payloadSize : Word) : Header :=
  ⟨captureTimestamp, payloadOffset, payloadSize⟩

/-- Whether the payload follows on the stream. -/
def isInline (h : Header) : Bool :=
  h.payloadOffset == inlineMark

/-- The first place after the payload, unless it is beyond the range of words. -/
def payloadEnd? (h : Header) : Option Word :=
  h.payloadOffset.add? h.payloadSize

/-- A header on the wire: its three words, each with the lowest byte first. -/
def encode (h : Header) : Bytes :=
  Bytes.ofWord h.captureTimestamp ++ Bytes.ofWord h.payloadOffset ++ Bytes.ofWord h.payloadSize

/-- Put a header behind the bytes that are there already. -/
def appendTo (buffer : Bytes) (h : Header) : Bytes :=
  buffer ++ h.encode

/-- The header that a byte string starts with, if it is long enough. -/
def decode? (bs : Bytes) : Option Header :=
  if bs.length < length then none
  else some {
    captureTimestamp := Bytes.toWord (bs.slice 0 8)
    payloadOffset := Bytes.toWord (bs.slice 8 8)
    payloadSize := Bytes.toWord (bs.slice 16 8) }

@[simp] theorem length_encode (h : Header) : h.encode.length = length := by
  simp [encode, length]

theorem encode_ne_nil (h : Header) : h.encode ≠ [] := by
  apply List.ne_nil_of_length_pos
  rw [length_encode]
  decide

/-- There is a header as soon as there are enough bytes. -/
theorem decode?_eq_none_iff {bs : Bytes} : decode? bs = none ↔ bs.length < length := by
  simp [decode?]

/-- A header is read back, whatever comes behind it. -/
theorem decode?_encode (h : Header) (rest : Bytes) : decode? (h.encode ++ rest) = some h := by
  have hlen : ¬ (h.encode ++ rest).length < length := by simp
  have h0 : Bytes.slice (h.encode ++ rest) 0 8 = Bytes.ofWord h.captureTimestamp := by
    simp [Bytes.slice, encode]
  have h8 : Bytes.slice (h.encode ++ rest) 8 8 = Bytes.ofWord h.payloadOffset := by
    simp [Bytes.slice, encode]
  have h16 : Bytes.slice (h.encode ++ rest) 16 8 = Bytes.ofWord h.payloadSize := by
    have hdrop : (Bytes.ofWord h.captureTimestamp).drop 16 = [] :=
      List.drop_of_length_le (by simp)
    simp [Bytes.slice, encode, List.drop_append, hdrop]
  rw [decode?, if_neg hlen, h0, h8, h16]
  simp

theorem take_eq_slices (bs : Bytes) :
    bs.take length = bs.slice 0 8 ++ bs.slice 8 8 ++ bs.slice 16 8 := by
  have h1 : bs.take 16 = bs.take 8 ++ (bs.drop 8).take 8 := List.take_add (i := 8) (j := 8)
  have h2 : bs.take 24 = bs.take 16 ++ (bs.drop 16).take 8 := List.take_add (i := 16) (j := 8)
  simp only [Bytes.slice, length, List.drop_zero]
  rw [h2, h1]

/-- The first bytes are those of the header that is read of them. -/
theorem take_eq_encode_of_decode? {bs : Bytes} {h : Header} (hd : decode? bs = some h) :
    bs.take length = h.encode := by
  by_cases hlen : bs.length < length
  · rw [decode?_eq_none_iff.mpr hlen] at hd
    simp at hd
  · rw [decode?, if_neg hlen, Option.some.injEq] at hd
    subst hd
    have len (o : Nat) (ho : o + 8 ≤ 24) : (Bytes.slice bs o 8).length = 8 := by
      simp only [length] at hlen
      simp only [Bytes.slice, List.length_take, List.length_drop]
      omega
    rw [take_eq_slices, encode, Bytes.ofWord_toWord (len 0 (by omega)),
      Bytes.ofWord_toWord (len 8 (by omega)), Bytes.ofWord_toWord (len 16 (by omega))]

/-- What comes behind a header does not change it. -/
theorem decode?_append {bs : Bytes} {h : Header} (hd : decode? bs = some h) (rest : Bytes) :
    decode? (bs ++ rest) = some h := by
  rw [← List.take_append_drop length bs, take_eq_encode_of_decode? hd, List.append_assoc,
    decode?_encode]

/-- Only the first 24 bytes matter. -/
@[simp] theorem decode?_take (bs : Bytes) : decode? (bs.take length) = decode? bs := by
  cases hd : decode? bs with
  | none =>
    have hlt := decode?_eq_none_iff.mp hd
    rw [decode?_eq_none_iff, List.length_take]
    omega
  | some h =>
    rw [take_eq_encode_of_decode? hd]
    simpa using decode?_encode h []

theorem length_le_of_decode? {bs : Bytes} {h : Header} (hd : decode? bs = some h) :
    length ≤ bs.length := by
  by_cases hlt : bs.length < length
  · rw [decode?_eq_none_iff.mpr hlt] at hd
    cases hd
  · omega

end Header

end Framecast
