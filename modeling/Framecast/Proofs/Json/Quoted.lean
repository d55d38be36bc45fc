import Framecast.Json.Quoted

/-!
# Reading what was quoted

`unquote` undoes `quote`, whatever the text and whatever follows it. Line breaks are written as
escapes, so a quoted text is always on one line.
-/

namespace Framecast

/-- A text is read back from its bytes. -/
theorem Bytes.toText?_ofText (text : String) : toText? (ofText text) = some text := by
  have hbytes : (ofText text).toByteArray = text.toByteArray := by
    ext1
    exact List.data_toByteArray
  unfold toText? String.fromUTF8?
  rw [hbytes, dif_pos text.isValidUTF8]
  rfl

namespace Json

theorem hexValue?_hexDigit : ∀ n < 16, hexValue? (hexDigit n) = some n := by
  decide

theorem codePoint_control : ∀ n < 32, codePoint n = [UInt8.ofNat n] := by
  decide

theorem unquoteBytes_escape {text bytes left more rest : Bytes} {h : left.length ≤ text.length}
    (hescape : readEscape text = .ok (bytes, ⟨left, h⟩))
    (hmore : unquoteBytes left = .ok (more, rest)) :
    unquoteBytes (escapeMark :: text) = .ok (bytes ++ more, rest) := by
  have hne : escapeMark ≠ quoteMark := by decide
  rw [unquoteBytes, if_neg hne, if_pos rfl, hescape]
  dsimp only
  rw [hmore]

/-- An escape of one letter is read back. -/
theorem readEscape_letter {letter b : UInt8} (hletter : letterEscape? letter = some b)
    (hne : letter ≠ 117) (rest : Bytes) :
    ∃ h, readEscape (letter :: rest) = .ok ([b], ⟨rest, h⟩) := by
  unfold readEscape
  dsimp only
  rw [if_neg hne, hletter]
  exact ⟨_, rfl⟩

theorem hexQuad_byte {n : Nat} (hn : n < 256) (rest : Bytes) :
    ∃ h, hexQuad (48 :: 48 :: hexDigit (n / 16) :: hexDigit (n % 16) :: rest) =
      .ok (n, ⟨rest, h⟩) := by
  have hzero : hexValue? 48 = some 0 := rfl
  have hvalue : ((0 * 16 + 0) * 16 + n / 16) * 16 + n % 16 = n := by omega
  unfold hexQuad
  dsimp only
  rw [hzero, hexValue?_hexDigit (n / 16) (by omega), hexValue?_hexDigit (n % 16) (by omega)]
  dsimp only
  rw [hvalue]
  exact ⟨_, rfl⟩

/-- The escape of a control byte is read back. -/
theorem readEscape_control {b : UInt8} (hb : b < 32) (rest : Bytes) :
    ∃ h, readEscape
        (117 :: 48 :: 48 :: hexDigit (b.toNat / 16) :: hexDigit (b.toNat % 16) :: rest) =
      .ok ([b], ⟨rest, h⟩) := by
  have hlt : b.toNat < 32 := hb
  have hbyte : codePoint b.toNat = [b] := by
    rw [codePoint_control b.toNat hlt, UInt8.ofNat_toNat]
  obtain ⟨h, hquad⟩ := hexQuad_byte b.toNat_lt rest
  unfold readEscape unicodeEscape
  dsimp only
  rw [if_pos rfl, hquad]
  dsimp only
  rw [if_neg (by omega), if_neg (by omega), hbyte]
  exact ⟨_, rfl⟩

/-- A byte that was escaped is read back. -/
theorem unquoteBytes_escaped (b : UInt8) {text more rest : Bytes}
    (hmore : unquoteBytes text = .ok (more, rest)) :
    unquoteBytes (escaped b ++ text) = .ok (b :: more, rest) := by
  have hletter {letter : UInt8} (hletter : letterEscape? letter = some b) (hne : letter ≠ 117) :
      unquoteBytes (escapeMark :: letter :: text) = .ok (b :: more, rest) := by
    obtain ⟨h, hescape⟩ := readEscape_letter hletter hne text
    exact unquoteBytes_escape hescape hmore
  unfold escaped
  split
  · rename_i hmark
    rcases hmark with rfl | rfl
    · exact hletter rfl (by decide)
    · exact hletter rfl (by decide)
  split
  · rename_i hb
    exact hletter (hb ▸ rfl) (by decide)
  split
  · rename_i hb
    exact hletter (hb ▸ rfl) (by decide)
  split
  · rename_i hb
    exact hletter (hb ▸ rfl) (by decide)
  split
  · rename_i hb
    exact hletter (hb ▸ rfl) (by decide)
  split
  · rename_i hb
    exact hletter (hb ▸ rfl) (by decide)
  split
  · rename_i hb
    obtain ⟨h, hescape⟩ := readEscape_control hb text
    exact unquoteBytes_escape hescape hmore
  · rename_i hmark _ _ _ _ _ hplain
    rw [not_or] at hmark
    rw [List.singleton_append, unquoteBytes, if_neg hmark.1, if_neg hmark.2, if_neg hplain, hmore]

/-- The bytes of a string are read back. -/
theorem unquoteBytes_quoteBody (bytes rest : Bytes) :
    unquoteBytes (quoteBody bytes ++ quoteMark :: rest) = .ok (bytes, rest) := by
  induction bytes with
  | nil =>
    show unquoteBytes (quoteMark :: rest) = _
    rw [unquoteBytes, if_pos rfl]
  | cons b more ih =>
    show unquoteBytes ((escaped b ++ quoteBody more) ++ _) = _
    rw [List.append_assoc]
    exact unquoteBytes_escaped b ih

/-- The text of a string is read back. -/
theorem unquote_quoteBody (text : String) (rest : Bytes) :
    unquote (quoteBody (Bytes.ofText text) ++ quoteMark :: rest) = .ok (text, rest) := by
  unfold unquote
  rw [unquoteBytes_quoteBody]
  dsimp only
  rw [Bytes.toText?_ofText]

/-! ### Line breaks -/

theorem hexDigit_ne_newline : ∀ n < 16, hexDigit n ≠ 10 := by
  decide

theorem newline_not_mem_escaped (b : UInt8) : 10 ∉ escaped b := by
  have hlt := b.toNat_lt
  have hhigh : b < 32 → hexDigit (b.toNat / 16) ≠ 10 := by
    intro hb
    have hb : b.toNat < 32 := hb
    exact hexDigit_ne_newline _ (by omega)
  have hlow := hexDigit_ne_newline (b.toNat % 16) (by omega)
  unfold escaped
  split
  · rename_i hmark
    rcases hmark with rfl | rfl <;> decide
  split
  · decide
  split
  · decide
  split
  · decide
  split
  · decide
  split
  · decide
  split
  · rename_i hb
    simp [escapeMark, (hhigh hb).symm, hlow.symm]
  · rename_i hnot _ _ _
    simp [Ne.symm hnot]

/-- A string contains no line end. -/
theorem newline_not_mem_quote (bytes : Bytes) : 10 ∉ quote bytes := by
  have hbody : 10 ∉ quoteBody bytes := by
    intro hmem
    obtain ⟨b, -, hb⟩ := List.mem_flatMap.mp hmem
    exact newline_not_mem_escaped b hb
  unfold quote
  rw [List.mem_append, List.mem_cons, List.mem_singleton]
  rintro ((hmark | hmem) | hmark)
  · exact absurd hmark (by decide)
  · exact hbody hmem
  · exact absurd hmark (by decide)

end Json

end Framecast
