import Framecast.Proofs.Json.Record
import Framecast.Session.Message

/-!
# Messages are lines

Every message is encoded on one line and decoded from it, whatever the texts in it. So a receiver
that stops at the first line break has the whole message.
-/

namespace Framecast

/-- One line: it ends with its only line break. -/
structure IsLine (line : Bytes) : Prop where
  once : line.count newline = 1
  last : line.getLast? = some newline

/-- A message without line ends is sent as one line. -/
theorem isLine_asLine {message : Bytes} (h : newline ∉ message) : IsLine (asLine message) where
  once := by
    unfold asLine
    rw [List.count_append, List.count_eq_zero.mpr h]
    rfl
  last := by
    unfold asLine
    rw [List.getLast?_append]
    rfl

theorem takeWhile_asLine {message : Bytes} (h : newline ∉ message) :
    (asLine message).takeWhile (· ≠ newline) = message := by
  have hall : ∀ b ∈ message, decide (b ≠ newline) = true := by
    intro b hb
    apply decide_eq_true
    rintro rfl
    exact h hb
  unfold asLine
  rw [List.takeWhile_append_of_pos hall]
  exact List.append_nil message

namespace AttachRequest

/-- A message contains no line end. -/
theorem newline_not_mem_encode (r : AttachRequest) : newline ∉ r.encode :=
  Json.newline_not_mem_writeRecord _

/-- A message is read as it was written. -/
theorem decode_encode (r : AttachRequest) : decode r.encode = .ok r := by
  have hfits : Json.Fits fields [("method", .text r.method)] :=
    ⟨.cons ⟨rfl, trivial⟩ .nil, by decide⟩
  unfold decode encode
  rw [Json.readRecord_writeRecord hfits]
  rfl

end AttachRequest

namespace AttachAnswer

theorem newline_not_mem_encode (a : AttachAnswer) : newline ∉ a.encode :=
  Json.newline_not_mem_writeRecord _

theorem decode_encode {a : AttachAnswer} (h : ∀ n ∈ a.handle, n < 0x100000000) :
    decode a.encode = .ok a := by
  obtain ⟨caps, handle, error⟩ := a
  have htext (text : Option String) : Json.FieldKind.optionalText.Admits (optionalText text) := by
    cases text <;> trivial
  have hindex : Json.FieldKind.optionalIndex.Admits (optionalIndex handle) := by
    cases handle with
    | none => trivial
    | some n => exact h n rfl
  have hfits : Json.Fits fields [("caps", optionalText caps), ("handle", optionalIndex handle),
      ("error", optionalText error)] :=
    ⟨.cons ⟨rfl, htext caps⟩ (.cons ⟨rfl, hindex⟩ (.cons ⟨rfl, htext error⟩ .nil)), by decide⟩
  unfold decode encode
  rw [Json.readRecord_writeRecord hfits]
  cases caps <;> cases handle <;> cases error <;> rfl

end AttachAnswer

end Framecast
