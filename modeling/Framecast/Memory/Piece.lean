import Framecast.Bytes

/-!
# Pieces

Long byte strings are kept in pieces: bytes one by one, or one byte many times. `join` is the view
of a list of pieces, and its first and its last bytes can be had without copying the others.
-/

namespace Framecast

/-- Some bytes in a row. -/
inductive Piece where
  | bytes (bytes : Bytes)
  /-- One byte so many times. -/
  | run (byte : UInt8) (count : Nat)
  deriving DecidableEq, Repr

namespace Piece

/-- The bytes of a piece. -/
def toBytes : Piece → Bytes
  | bytes bs => bs
  | run byte count => List.replicate count byte

/-- How many bytes a piece has. -/
def size : Piece → Nat
  | bytes bs => bs.length
  | run _ count => count

/-- The first bytes of a piece. -/
def take (n : Nat) : Piece → Piece
  | bytes bs => bytes (bs.take n)
  | run byte count => run byte (min n count)

/-- What is behind the first bytes of a piece. -/
def drop (n : Nat) : Piece → Piece
  | bytes bs => bytes (bs.drop n)
  | run byte count => run byte (count - n)

@[simp] theorem length_toBytes (p : Piece) : p.toBytes.length = p.size := by
  cases p <;> simp [toBytes, size]

@[simp] theorem toBytes_take (n : Nat) (p : Piece) : (p.take n).toBytes = p.toBytes.take n := by
  cases p <;> simp [take, toBytes, List.take_replicate]

@[simp] theorem toBytes_drop (n : Nat) (p : Piece) : (p.drop n).toBytes = p.toBytes.drop n := by
  cases p <;> simp [drop, toBytes]

/-- The bytes of all pieces, one behind the other. -/
def join (pieces : List Piece) : Bytes :=
  pieces.flatMap toBytes

/-- How many bytes all pieces have. -/
def total (pieces : List Piece) : Nat :=
  pieces.foldr (fun p n => p.size + n) 0

/-- The pieces that hold the first bytes. -/
def firsts : Nat → List Piece → List Piece
  | _, [] => []
  | n, p :: rest => if p.size ≤ n then p :: firsts (n - p.size) rest else [p.take n]

/-- The pieces that hold all but the first bytes. -/
def rests : Nat → List Piece → List Piece
  | _, [] => []
  | n, p :: rest => if p.size ≤ n then rests (n - p.size) rest else p.drop n :: rest

@[simp] theorem length_join (pieces : List Piece) : (join pieces).length = total pieces := by
  induction pieces with
  | nil => rfl
  | cons p rest ih =>
    have ih : (rest.flatMap toBytes).length = total rest := ih
    simp only [join, total, List.flatMap_cons, List.length_append, length_toBytes, List.foldr_cons,
      ih]

/-- The first pieces hold the first bytes. -/
@[simp] theorem join_firsts (n : Nat) (pieces : List Piece) :
    join (firsts n pieces) = (join pieces).take n := by
  induction pieces generalizing n with
  | nil => simp [firsts, join]
  | cons p rest ih =>
    rw [firsts]
    split
    · rename_i h
      have ih := ih (n - p.size)
      have hp : p.toBytes.take n = p.toBytes := List.take_of_length_le (by simpa using h)
      simp only [join, List.flatMap_cons] at ih ⊢
      rw [ih, List.take_append, length_toBytes, hp]
    · rename_i h
      have hn : n - p.size = 0 := by omega
      simp [join, List.take_append, hn]

/-- The last pieces hold the last bytes. -/
@[simp] theorem join_rests (n : Nat) (pieces : List Piece) :
    join (rests n pieces) = (join pieces).drop n := by
  induction pieces generalizing n with
  | nil => simp [rests, join]
  | cons p rest ih =>
    rw [rests]
    split
    · rename_i h
      have ih := ih (n - p.size)
      have hp : p.toBytes.drop n = [] := List.drop_eq_nil_of_le (by simpa using h)
      simp only [join, List.flatMap_cons] at ih ⊢
      rw [ih, List.drop_append, length_toBytes, hp, List.nil_append]
    · rename_i h
      have hn : n - p.size = 0 := by omega
      simp [join, List.drop_append, hn]

end Piece

end Framecast
