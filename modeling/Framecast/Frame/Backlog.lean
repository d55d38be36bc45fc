import Framecast.Memory.Piece

/-!
# Backlogs

The bytes that were received and belong to no frame yet, kept in the pieces in which they came so
that taking in more of them does not copy the others. `toBytes` is the view.
-/

namespace Framecast

/-- Bytes received, in pieces. -/
structure Backlog where
  /-- The pieces, the newest first. -/
  newest : List Piece
  length : Nat
  length_eq : length = (Piece.join newest.reverse).length
  deriving DecidableEq, Repr

namespace Backlog

/-- Nothing was received yet. -/
def empty : Backlog := ⟨[], 0, rfl⟩

instance : Inhabited Backlog := ⟨empty⟩

/-- All of the bytes, the oldest first. -/
def toBytes (b : Backlog) : Bytes :=
  Piece.join b.newest.reverse

/-- Whether all that was received has been taken. -/
def isEmpty (b : Backlog) : Bool :=
  b.length = 0

/-- Put bytes behind those that are held. -/
def push (bytes : Bytes) (b : Backlog) : Backlog :=
  ⟨.bytes bytes :: b.newest, b.length + bytes.length, by
    have h := b.length_eq
    simp only [Piece.join] at h ⊢
    simp [h, Piece.toBytes]⟩

/-- Some of the oldest bytes. -/
def take (count : Nat) (b : Backlog) : Bytes :=
  Piece.join (Piece.firsts count b.newest.reverse)

/-- So many of the bytes that are held, from an offset on. -/
def slice (offset count : Nat) (b : Backlog) : Bytes :=
  Piece.join (Piece.firsts count (Piece.rests offset b.newest.reverse))

/-- Take so many bytes off the front. -/
def drop (count : Nat) (b : Backlog) : Backlog :=
  ⟨(Piece.rests count b.newest.reverse).reverse, b.length - count, by
    rw [List.reverse_reverse, Piece.join_rests, List.length_drop, ← b.length_eq]⟩

@[simp] theorem toBytes_empty : empty.toBytes = [] := rfl

theorem length_toBytes (b : Backlog) : b.toBytes.length = b.length :=
  b.length_eq.symm

/-- New bytes stand behind those that are held. -/
@[simp] theorem toBytes_push (bytes : Bytes) (b : Backlog) :
    (b.push bytes).toBytes = b.toBytes ++ bytes := by
  simp [toBytes, push, Piece.join, Piece.toBytes]

theorem take_eq (count : Nat) (b : Backlog) : b.take count = b.toBytes.take count := by
  simp [take, toBytes]

/-- A slice of a backlog is a slice of its bytes. -/
theorem slice_eq (offset count : Nat) (b : Backlog) :
    b.slice offset count = b.toBytes.slice offset count := by
  simp [slice, toBytes, Bytes.slice]

/-- What is taken off a backlog is taken off the front of its bytes. -/
@[simp] theorem toBytes_drop (count : Nat) (b : Backlog) :
    (b.drop count).toBytes = b.toBytes.drop count := by
  simp [toBytes, drop]

end Backlog

end Framecast
