import Framecast.Bytes

/-!
# JSON faults

Why a byte string is not the JSON document that was asked for, and where that was noticed. A fault
is of one of three classes: the text is malformed, it is well formed but of another shape, or it
ends too early.
-/

namespace Framecast.Json

/-- What is wrong with a text that was to be read. -/
inductive Reason where
  | endInList
  | endInObject
  | endInString
  | endInValue
  | expectedColon
  | expectedListEnd
  | expectedObjectEnd
  | expectedWord
  | expectedValue
  | invalidEscape
  | invalidNumber
  | numberOutOfRange
  | invalidUnicode
  | controlCharacter
  | keyNotText
  | loneSurrogate
  | openSurrogate
  | trailingComma
  | trailingCharacters
  | wrongType (wanted : String)
  | wrongNumber (wanted : String)
  | missingField (name : String)
  | duplicateField (name : String)
  /-- A list that stands for a record has too few elements. -/
  | tooFewElements (count : Nat)
  deriving DecidableEq, Repr

/-- The classes of faults that callers tell apart. -/
inductive FaultClass where
  /-- The text is no JSON. -/
  | malformed
  /-- The text is JSON of another shape. -/
  | misfit
  /-- The text ends too early. -/
  | truncated
  deriving DecidableEq, Repr

/-- The name of a class. -/
def FaultClass.name : FaultClass → String
  | malformed => "Syntax"
  | misfit => "Data"
  | truncated => "Eof"

namespace Reason

/-- The class of what is wrong. -/
def faultClass : Reason → FaultClass
  | endInList | endInObject | endInString | endInValue => .truncated
  | wrongType _ | wrongNumber _ | missingField _ | duplicateField _ | tooFewElements _ => .misfit
  | _ => .malformed

/-- What is wrong, in words. -/
def message : Reason → String
  | endInList => "EOF while parsing a list"
  | endInObject => "EOF while parsing an object"
  | endInString => "EOF while parsing a string"
  | endInValue => "EOF while parsing a value"
  | expectedColon => "expected `:`"
  | expectedListEnd => "expected `,` or `]`"
  | expectedObjectEnd => "expected `,` or `\x7d`"
  | expectedWord => "expected ident"
  | expectedValue => "expected value"
  | invalidEscape => "invalid escape"
  | invalidNumber => "invalid number"
  | numberOutOfRange => "number out of range"
  | invalidUnicode => "invalid unicode code point"
  | controlCharacter =>
    "control character (\\u0000-\\u001F) found while parsing a string"
  | keyNotText => "key must be a string"
  | loneSurrogate => "lone leading surrogate in hex escape"
  | openSurrogate => "unexpected end of hex escape"
  | trailingComma => "trailing comma"
  | trailingCharacters => "trailing characters"
  | wrongType wanted => "invalid type, expected " ++ wanted
  | wrongNumber wanted => "invalid value, expected " ++ wanted
  | missingField name => "missing field `" ++ name ++ "`"
  | duplicateField name => "duplicate field `" ++ name ++ "`"
  | tooFewElements count => "invalid length " ++ toString count

end Reason

/-- A reason and where it was noticed. -/
structure Fault where
  reason : Reason
  line : Nat
  /-- Bytes of the line up to the one that gave the reason. -/
  column : Nat
  deriving DecidableEq, Repr

namespace Fault

/-- The class of a fault. -/
def faultClass (f : Fault) : FaultClass :=
  f.reason.faultClass

/-- A fault in words, with its place. -/
def message (f : Fault) : String :=
  f.reason.message ++ " at line " ++ toString f.line ++ " column " ++ toString f.column

end Fault

/-- A reason, and the bytes that were not yet looked at when it was noticed. -/
structure Stop where
  reason : Reason
  rest : Bytes
  deriving DecidableEq, Repr

namespace Stop

/-- The fault in the whole text at which reading it stopped. -/
def toFault (text : Bytes) (stop : Stop) : Fault :=
  let seen := text.take (text.length - stop.rest.length + 1)
  let line := (seen.reverse.takeWhile (· ≠ 10)).length
  ⟨stop.reason, (seen.filter (· = 10)).length + 1, line⟩

end Stop

end Framecast.Json
