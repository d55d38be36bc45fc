import Framecast.Json.Quoted
import Framecast.Json.Number

/-!
# JSON values that nobody wants

A value is passed over by following its brackets: `passValue` finds its end. How deep the brackets
go does not matter, and neither do the characters inside its strings.
-/

namespace Framecast.Json

/-- The bytes that may stand between the parts of a value. -/
def isBlank (b : UInt8) : Bool :=
  b = 32 || b = 9 || b = 10 || b = 13

/-- The text from its next part on. -/
def skipBlanks (text : Bytes) : Bytes :=
  text.dropWhile isBlank

/-- The bytes of the three words behind their first letter. -/
def wordTail (first : UInt8) : Option Bytes :=
  if first = 110 then some [117, 108, 108]
  else if first = 116 then some [114, 117, 101]
  else if first = 102 then some [97, 108, 115, 101]
  else none

/-- Read exactly this word. -/
def readWord : (word text : Bytes) → Except Stop Bytes
  | [], text => .ok text
  | _ :: _, [] => .error ⟨.endInValue, []⟩
  | w :: ws, b :: rest => if b = w then readWord ws rest else .error ⟨.expectedWord, rest⟩

/-- What is open around a place in a text. -/
inductive Bracket where
  | list
  | object
  deriving DecidableEq, Repr

namespace Bracket

/-- The reason given when the text ends inside the bracket. -/
def endReason : Bracket → Reason
  | list => .endInList
  | object => .endInObject

/-- The byte that closes a bracket. -/
def closing : Bracket → UInt8
  | list => 93
  | object => 125

/-- The reason given when neither a comma nor the end follows an element. -/
def elementReason : Bracket → Reason
  | list => .expectedListEnd
  | object => .expectedObjectEnd

end Bracket

/-- Read the mark between a member's name and its value. -/
def readColon (text : Bytes) : Except Stop Bytes :=
  match skipBlanks text with
  | [] => .error ⟨.endInObject, []⟩
  | b :: rest => if b = 58 then .ok rest else .error ⟨.expectedColon, b :: rest⟩

/-- Find the end of a key and of the colon behind it. -/
def passKey (text : Bytes) : Except Stop Bytes :=
  match skipBlanks text with
  | [] => .error ⟨.endInObject, []⟩
  | b :: rest =>
    if b = quoteMark then (passQuoted rest).bind readColon else .error ⟨.keyNotText, b :: rest⟩

/-- Find the place of the next value inside a bracket. -/
def passToElement (bracket : Bracket) (text : Bytes) : Except Stop Bytes :=
  match bracket with
  | .list => .ok text
  | .object => passKey text

/-- Find the end of a value that is neither list nor object, given its first byte. -/
def passScalar (first : UInt8) (rest : Bytes) : Except Stop Bytes :=
  match wordTail first with
  | some word => readWord word rest
  | none =>
    if first = 45 then passNumber rest
    else if isDigit first then passNumber (first :: rest)
    else if first = quoteMark then passQuoted rest
    else .error ⟨.expectedValue, first :: rest⟩

mutual

/-- Find the end of a value inside the given open brackets and of those brackets. The first argument
bounds the number of steps. -/
def passIn : Nat → List Bracket → Bytes → Except Stop Bytes
  | 0, _, text => .error ⟨.endInValue, text⟩
  | steps + 1, opened, text =>
    match skipBlanks text with
    | [] => .error ⟨.endInValue, []⟩
    | b :: rest =>
      if b = 91 then passOpened steps .list opened rest
      else if b = 123 then passOpened steps .object opened rest
      else (passScalar b rest).bind (passAfter steps opened)

/-- The same behind an opening bracket. -/
def passOpened : Nat → Bracket → List Bracket → Bytes → Except Stop Bytes
  | 0, _, _, text => .error ⟨.endInValue, text⟩
  | steps + 1, bracket, opened, text =>
    match skipBlanks text with
    | [] => .error ⟨bracket.endReason, []⟩
    | b :: rest =>
      if b = bracket.closing then passAfter steps opened rest
      else (passToElement bracket (b :: rest)).bind (passIn steps (bracket :: opened))

/-- The same behind a value. -/
def passAfter : Nat → List Bracket → Bytes → Except Stop Bytes
  | _, [], text => .ok text
  | 0, _, text => .error ⟨.endInValue, text⟩
  | steps + 1, bracket :: opened, text =>
    match skipBlanks text with
    | [] => .error ⟨bracket.endReason, []⟩
    | b :: rest =>
      if b = 44 then (passToElement bracket rest).bind (passIn steps (bracket :: opened))
      else if b = bracket.closing then passAfter steps opened rest
      else .error ⟨bracket.elementReason, b :: rest⟩

end

/-- Pass over a value, whatever it is. -/
def passValue (text : Bytes) : Except Stop Bytes :=
  passIn (2 * text.length + 1) [] text

/-- Why a value that starts here is not of the wanted kind: it may be no value at all. -/
def mismatch (wanted : String) (text : Bytes) : Stop :=
  let after {α : Type} (r : Except Stop α) (rest : α → Bytes) : Stop :=
    match r with
    | .error e => e
    | .ok a => ⟨.wrongType wanted, rest a⟩
  match text with
  | [] => ⟨.expectedValue, []⟩
  | b :: rest =>
    match wordTail b with
    | some word => after (readWord word rest) id
    | none =>
      if b = 45 then after (readNumber true rest) Prod.snd
      else if isDigit b then after (readNumber false text) Prod.snd
      else if b = quoteMark then after (unquote rest) Prod.snd
      else if b = 91 ∨ b = 123 then ⟨.wrongType wanted, text⟩
      else ⟨.expectedValue, text⟩

end Framecast.Json
