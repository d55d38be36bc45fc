import Framecast.IoError
import Framecast.Memory.Piece

/-!
# Files

The bytes of a regular file, kept as the pieces that were written: bytes one by one, or one byte
many times. So a large file of zeros takes no room. `toBytes` is the view: `toBytes_resize`,
`toBytes_overwrite` and `read_eq` say what each operation does to it.

A write may come to less than was asked for. `writeAll` goes on until everything is written; what
the system answers to each call is told to it.
-/

namespace Framecast

/-- The contents of a regular file. -/
structure File where
  pieces : List Piece := []
  deriving DecidableEq, Repr, Inhabited

namespace File

/-- All bytes of a file. -/
def toBytes (f : File) : Bytes :=
  Piece.join f.pieces

/-- How many bytes a file has. -/
def size (f : File) : Nat :=
  Piece.total f.pieces

/-- A file with these bytes. -/
def ofBytes (bs : Bytes) : File := ⟨[.bytes bs]⟩

/-- A file of so many zero bytes. -/
def zeros (size : Nat) : File := ⟨[.run 0 size]⟩

/-- The file cut or extended with zeros to a length. -/
def resize (f : File) (size : Nat) : File :=
  ⟨Piece.firsts size f.pieces ++ [.run 0 (size - f.size)]⟩

/-- The bytes of the file in the range that starts at `offset`, as far as the file goes. -/
def read (f : File) (offset size : Nat) : Bytes :=
  Piece.join (Piece.firsts size (Piece.rests offset f.pieces))

/-- The file with a range replaced; zeros fill a gap before it. -/
def overwrite (f : File) (start : Nat) (piece : Piece) : File :=
  if piece.size = 0 then f
  else
    ⟨Piece.firsts start f.pieces ++ .run 0 (start - f.size) :: piece ::
      Piece.rests (start + piece.size) f.pieces⟩

/-- Write into the file, extending it if need be. -/
def write (f : File) (start : Nat) (data : Bytes) : File :=
  f.overwrite start (.bytes data)

/-- Write all of the data. Call by call, at most as many bytes are taken as answered, or the call
fails; one that was interrupted is made again. When the answers are used up, a call takes all. -/
def writeAll : List (Except IoError Nat) → (start : Nat) → Bytes → File → Except IoError Unit × File
  | [], start, data, f => (.ok (), f.write start data)
  | answer :: answers, start, data, f =>
    if data.isEmpty then (.ok (), f)
    else
      match answer with
      | .error e =>
        if e.kind = .interrupted then writeAll answers start data f else (.error e, f)
      | .ok taken =>
        if taken = 0 then (.error (.bare .writeZero), f)
        else
          writeAll answers (start + min taken data.length) (data.drop taken)
            (f.write start (data.take taken))

@[simp] theorem length_toBytes (f : File) : f.toBytes.length = f.size :=
  Piece.length_join f.pieces

@[simp] theorem toBytes_ofBytes (bs : Bytes) : (ofBytes bs).toBytes = bs := by
  simp [toBytes, ofBytes, Piece.join, Piece.toBytes]

@[simp] theorem toBytes_zeros (size : Nat) : (zeros size).toBytes = List.replicate size 0 := by
  simp [toBytes, zeros, Piece.join, Piece.toBytes]

/-- A file that grows ends in zeros, one that shrinks loses its end. -/
theorem toBytes_resize (f : File) (size : Nat) :
    (f.resize size).toBytes = f.toBytes.take size ++ List.replicate (size - f.size) 0 := by
  have h := Piece.join_firsts size f.pieces
  simp only [Piece.join] at h
  simp [toBytes, resize, Piece.join, Piece.toBytes, h]

/-- A read is a slice of the bytes. -/
theorem read_eq (f : File) (offset size : Nat) :
    f.read offset size = f.toBytes.slice offset size := by
  simp [read, toBytes, Bytes.slice]

/-- A written range holds what was written, and all other bytes stay. -/
theorem toBytes_overwrite {piece : Piece} (h : piece.size ≠ 0) (f : File) (start : Nat) :
    (f.overwrite start piece).toBytes =
      f.toBytes.take start ++ List.replicate (start - f.size) 0 ++ piece.toBytes ++
        f.toBytes.drop (start + piece.size) := by
  have hf := Piece.join_firsts start f.pieces
  have hr := Piece.join_rests (start + piece.size) f.pieces
  simp only [Piece.join] at hf hr
  simp [toBytes, overwrite, h, Piece.join, Piece.toBytes, hf, hr]

end File

end Framecast
