import Framecast.Socket.Transfer

/-!
# Stretches of a stream

A socket carries bytes, and descriptors that ride on some of them. A stretch lists bytes together
with what rides on each. What one receive brings is a stretch of which the receiver sees the bytes
on one side and all the descriptors on the other.
-/

namespace Framecast

/-- A byte of a stream and the descriptors that ride on it. -/
structure Octet where
  byte : UInt8
  descriptors : List Descriptor := []
  deriving DecidableEq, Repr

/-- A part of a stream: bytes, with the descriptors that ride on each. -/
abbrev Stretch := List Octet

namespace Stretch

/-- The bytes of a stretch. -/
def bytes (s : Stretch) : Bytes :=
  s.map (·.byte)

/-- The descriptors that ride on a stretch. -/
def descriptors (s : Stretch) : List Descriptor :=
  s.flatMap (·.descriptors)

/-- What a receiver sees of a stretch. -/
def arrival (s : Stretch) : Arrival :=
  ⟨s.bytes, s.descriptors⟩

/-- Bytes on which nothing rides. -/
def plain (bs : Bytes) : Stretch :=
  bs.map ({ byte := · })

/-- Bytes sent at once; the descriptors ride on the first of them. -/
def ofMessage (descriptors : List Descriptor) : Bytes → Stretch
  | [] => []
  | b :: rest => ⟨b, descriptors⟩ :: plain rest

@[simp] theorem bytes_nil : bytes [] = [] := rfl

@[simp] theorem descriptors_nil : descriptors [] = [] := rfl

@[simp] theorem length_bytes (s : Stretch) : s.bytes.length = s.length :=
  List.length_map ..

@[simp] theorem bytes_append (s t : Stretch) : bytes (s ++ t) = s.bytes ++ t.bytes :=
  List.map_append

@[simp] theorem descriptors_append (s t : Stretch) :
    descriptors (s ++ t) = s.descriptors ++ t.descriptors :=
  List.flatMap_append

@[simp] theorem bytes_take (n : Nat) (s : Stretch) : bytes (s.take n) = s.bytes.take n :=
  List.map_take

@[simp] theorem bytes_drop (n : Nat) (s : Stretch) : bytes (s.drop n) = s.bytes.drop n :=
  List.map_drop

theorem bytes_eq_nil_iff {s : Stretch} : s.bytes = [] ↔ s = [] :=
  List.map_eq_nil_iff

theorem descriptors_take_append_drop (n : Nat) (s : Stretch) :
    descriptors (s.take n) ++ descriptors (s.drop n) = s.descriptors := by
  rw [← descriptors_append, List.take_append_drop]

@[simp] theorem arrival_bytes (s : Stretch) : s.arrival.bytes = s.bytes := rfl

@[simp] theorem arrival_descriptors (s : Stretch) : s.arrival.descriptors = s.descriptors := rfl

@[simp] theorem bytes_plain (bs : Bytes) : (plain bs).bytes = bs := by
  simp [plain, bytes, Function.comp_def]

@[simp] theorem descriptors_plain (bs : Bytes) : (plain bs).descriptors = [] := by
  induction bs with
  | nil => rfl
  | cons b rest ih => exact ih

@[simp] theorem length_plain (bs : Bytes) : (plain bs).length = bs.length :=
  List.length_map ..

theorem plain_append (bs cs : Bytes) : plain (bs ++ cs) = plain bs ++ plain cs :=
  List.map_append

@[simp] theorem bytes_ofMessage (ds : List Descriptor) (bs : Bytes) :
    (ofMessage ds bs).bytes = bs := by
  cases bs with
  | nil => rfl
  | cons b rest =>
    show b :: (plain rest).bytes = b :: rest
    rw [bytes_plain]

@[simp] theorem length_ofMessage (ds : List Descriptor) (bs : Bytes) :
    (ofMessage ds bs).length = bs.length := by
  rw [← length_bytes, bytes_ofMessage]

/-- A message of some bytes carries its descriptors. -/
theorem descriptors_ofMessage {ds : List Descriptor} {bs : Bytes} (h : bs ≠ []) :
    (ofMessage ds bs).descriptors = ds := by
  cases bs with
  | nil => exact absurd rfl h
  | cons b rest =>
    show ds ++ (plain rest).descriptors = ds
    rw [descriptors_plain, List.append_nil]

theorem ofMessage_nil (bs : Bytes) : ofMessage [] bs = plain bs := by
  cases bs <;> rfl

/-- The first part of a message carries all of its descriptors. -/
theorem ofMessage_take_append_plain_drop (ds : List Descriptor) {n : Nat} (hn : 0 < n)
    (bs : Bytes) : ofMessage ds (bs.take n) ++ plain (bs.drop n) = ofMessage ds bs := by
  match n, bs with
  | _ + 1, [] => rfl
  | n + 1, b :: rest =>
    show ⟨b, ds⟩ :: (plain (rest.take n) ++ plain (rest.drop n)) = ⟨b, ds⟩ :: plain rest
    rw [← plain_append, List.take_append_drop]

/-- A message that was cut short still carries its descriptors. -/
theorem take_ofMessage (ds : List Descriptor) (n : Nat) (bs : Bytes) :
    (ofMessage ds bs).take n = ofMessage ds (bs.take n) := by
  match n, bs with
  | 0, _ => rfl
  | _ + 1, [] => rfl
  | n + 1, b :: rest =>
    show ⟨b, ds⟩ :: (plain rest).take n = ⟨b, ds⟩ :: plain (rest.take n)
    rw [plain, plain, List.map_take]

/-- The rest of a message carries none. -/
theorem drop_ofMessage (ds : List Descriptor) {n : Nat} (hn : 0 < n) (bs : Bytes) :
    (ofMessage ds bs).drop n = plain (bs.drop n) := by
  match n, bs with
  | _ + 1, [] => rfl
  | n + 1, b :: rest =>
    show (plain rest).drop n = plain (rest.drop n)
    rw [plain, plain, List.map_drop]

/-- Less than the whole, from its beginning. -/
def IsTorn (torn whole : Stretch) : Prop :=
  ∃ rest, rest ≠ [] ∧ whole = torn ++ rest

theorem isTorn_nil {whole : Stretch} (h : whole ≠ []) : IsTorn [] whole :=
  ⟨whole, h, rfl⟩

/-- A torn stretch is torn from anything longer. -/
theorem IsTorn.append_right {torn whole : Stretch} (h : torn.IsTorn whole) (more : Stretch) :
    torn.IsTorn (whole ++ more) := by
  obtain ⟨rest, hrest, rfl⟩ := h
  refine ⟨rest ++ more, ?_, List.append_assoc ..⟩
  simp [hrest]

theorem IsTorn.append_left {torn whole : Stretch} (h : torn.IsTorn whole) (before : Stretch) :
    IsTorn (before ++ torn) (before ++ whole) := by
  obtain ⟨rest, hrest, rfl⟩ := h
  exact ⟨rest, hrest, (List.append_assoc ..).symm⟩

end Stretch

end Framecast
