import Framecast.Json.Fault

/-!
# JSON strings

A string stands between quotes. Quotes, backslashes and control characters inside are written as
escapes, everything else as it is; `quote` writes that form. `unquote` reads any form that JSON
allows, `passQuoted` only finds its end. Both start behind the opening quote.
-/

namespace Framecast.Json

/-- The mark at both ends of a string. -/
def quoteMark : UInt8 := 34

/-- The byte that starts an escape. -/
def escapeMark : UInt8 := 92

/-- A hexadecimal digit, in lower case. -/
def hexDigit (n : Nat) : UInt8 :=
  UInt8.ofNat (if n < 10 then 48 + n else 87 + n)

/-- A byte as it is written inside a string. -/
def escaped (b : UInt8) : Bytes :=
  if b = quoteMark ∨ b = escapeMark then [escapeMark, b]
  else if b = 8 then [escapeMark, 98]
  else if b = 9 then [escapeMark, 116]
  else if b = 10 then [escapeMark, 110]
  else if b = 12 then [escapeMark, 102]
  else if b = 13 then [escapeMark, 114]
  else if b < 32 then
    [escapeMark, 117, 48, 48, hexDigit (b.toNat / 16), hexDigit (b.toNat % 16)]
  else [b]

/-- The bytes of a text as they stand between the marks. -/
def quoteBody (bs : Bytes) : Bytes :=
  bs.flatMap escaped

/-- A text as a string. -/
def quote (bs : Bytes) : Bytes :=
  quoteMark :: quoteBody bs ++ [quoteMark]

/-- The value of a hexadecimal digit, in either case. -/
def hexValue? (b : UInt8) : Option Nat :=
  if 48 ≤ b ∧ b ≤ 57 then some (b.toNat - 48)
  else if 97 ≤ b ∧ b ≤ 102 then some (b.toNat - 87)
  else if 65 ≤ b ∧ b ≤ 70 then some (b.toNat - 55)
  else none

/-- What reading gives: a value and the rest of the text, which is no longer than before. -/
abbrev Taken (α : Type) (text : Bytes) :=
  Except Stop (α × { rest : Bytes // rest.length ≤ text.length })

/-- Read four hexadecimal digits. -/
def hexQuad : (text : Bytes) → Taken Nat text
  | a :: b :: c :: d :: rest =>
    match hexValue? a, hexValue? b, hexValue? c, hexValue? d with
    | some a, some b, some c, some d =>
      .ok (((a * 16 + b) * 16 + c) * 16 + d, ⟨rest, by simp; omega⟩)
    | _, _, _, _ => .error ⟨.invalidEscape, rest⟩
  | _ => .error ⟨.endInString, []⟩

/-- The UTF-8 form of a code point that is no surrogate. -/
def codePoint (n : Nat) : Bytes :=
  Bytes.ofText (String.singleton (Char.ofNat n))

/-- What an escape of one letter stands for. -/
def letterEscape? (b : UInt8) : Option UInt8 :=
  if b = quoteMark ∨ b = escapeMark ∨ b = 47 then some b
  else if b = 98 then some 8
  else if b = 102 then some 12
  else if b = 110 then some 10
  else if b = 114 then some 13
  else if b = 116 then some 9
  else none

/-- Read the second half of a surrogate pair, given the first. -/
def secondSurrogate (first : Nat) : (text : Bytes) → Taken Bytes text
  | [] => .error ⟨.endInString, []⟩
  | [b] => .error ⟨if b = escapeMark then .endInString else .openSurrogate, []⟩
  | b :: u :: rest =>
    if b ≠ escapeMark then .error ⟨.openSurrogate, u :: rest⟩
    else if u ≠ 117 then .error ⟨.openSurrogate, rest⟩
    else
      match hexQuad rest with
      | .error e => .error e
      | .ok (second, ⟨left, h⟩) =>
        if 0xDC00 ≤ second ∧ second ≤ 0xDFFF then
          .ok (codePoint (0x10000 + (first - 0xD800) * 1024 + (second - 0xDC00)),
            ⟨left, by simp; omega⟩)
        else .error ⟨.loneSurrogate, left⟩

/-- Read the code point of an escape, which surrogates must make up in pairs. -/
def unicodeEscape (text : Bytes) : Taken Bytes text :=
  match hexQuad text with
  | .error e => .error e
  | .ok (n, ⟨rest, h⟩) =>
    if 0xDC00 ≤ n ∧ n ≤ 0xDFFF then .error ⟨.loneSurrogate, rest⟩
    else if 0xD800 ≤ n ∧ n ≤ 0xDBFF then
      match secondSurrogate n rest with
      | .error e => .error e
      | .ok (bytes, ⟨left, h'⟩) => .ok (bytes, ⟨left, Nat.le_trans h' h⟩)
    else .ok (codePoint n, ⟨rest, h⟩)

/-- Read an escape, behind its mark. -/
def readEscape : (text : Bytes) → Taken Bytes text
  | [] => .error ⟨.endInString, []⟩
  | b :: rest =>
    if b = 117 then
      match unicodeEscape rest with
      | .error e => .error e
      | .ok (bytes, ⟨left, h⟩) => .ok (bytes, ⟨left, by simp; omega⟩)
    else
      match letterEscape? b with
      | some c => .ok ([c], ⟨rest, by simp⟩)
      | none => .error ⟨.invalidEscape, rest⟩

/-- Find the end of what follows the mark of an escape. -/
def passEscape : (text : Bytes) → Taken Unit text
  | [] => .error ⟨.endInString, []⟩
  | b :: rest =>
    if b = 117 then
      match hexQuad rest with
      | .error e => .error e
      | .ok (_, ⟨left, h⟩) => .ok ((), ⟨left, by simp; omega⟩)
    else if (letterEscape? b).isSome then .ok ((), ⟨rest, by simp⟩)
    else .error ⟨.invalidEscape, rest⟩

/-- Read the bytes of a string up to its end mark. -/
def unquoteBytes (text : Bytes) : Except Stop (Bytes × Bytes) :=
  match text with
  | [] => .error ⟨.endInString, []⟩
  | b :: rest =>
    if b = quoteMark then .ok ([], rest)
    else if b = escapeMark then
      match readEscape rest with
      | .error e => .error e
      | .ok (bytes, ⟨left, _⟩) =>
        match unquoteBytes left with
        | .error e => .error e
        | .ok (more, left) => .ok (bytes ++ more, left)
    else if b < 32 then .error ⟨.controlCharacter, rest⟩
    else
      match unquoteBytes rest with
      | .error e => .error e
      | .ok (more, left) => .ok (b :: more, left)
termination_by text.length

/-- Read a string up to its closing quote. -/
def unquote (text : Bytes) : Except Stop (String × Bytes) :=
  match unquoteBytes text with
  | .error e => .error e
  | .ok (bytes, rest) =>
    match Bytes.toText? bytes with
    | some s => .ok (s, rest)
    | none => .error ⟨.invalidUnicode, rest⟩

/-- Find the end of a string whose value is not wanted. -/
def passQuoted (text : Bytes) : Except Stop Bytes :=
  match text with
  | [] => .error ⟨.endInString, []⟩
  | b :: rest =>
    if b = quoteMark then .ok rest
    else if b = escapeMark then
      match passEscape rest with
      | .error e => .error e
      | .ok ((), ⟨left, _⟩) => passQuoted left
    else if b < 32 then .error ⟨.controlCharacter, rest⟩
    else passQuoted rest
termination_by text.length

end Framecast.Json
