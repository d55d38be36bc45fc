import Framecast.Json.Value

/-!
# JSON records

A record is an object with known fields, in any order; fields that are not known are passed over.
A list with exactly one element for each field, in order, stands for the same record. `readRecord`
reads a whole document that is a record, `writeRecord` writes one on a single line.
-/

namespace Framecast.Json

/-- What a member of a record holds. -/
inductive FieldKind where
  | text
  | optionalText
  /-- A number below `2 ^ 32`. -/
  | optionalIndex
  deriving DecidableEq, Repr

/-- A value of a member. -/
inductive FieldValue where
  | text (value : String)
  | index (value : Nat)
  | absent
  deriving DecidableEq, Repr

/-- A member that a record has: its name, and what it holds. -/
structure Field where
  name : String
  kind : FieldKind
  deriving DecidableEq, Repr

/-- The values of a record's members, by their names. -/
abbrev FieldValues := List (String × FieldValue)

/-- Read a member that is a text. -/
def readText (text : Bytes) : Except Stop (FieldValue × Bytes) :=
  match skipBlanks text with
  | [] => .error ⟨.endInValue, []⟩
  | b :: rest =>
    if b = quoteMark then (unquote rest).map fun (s, rest) => (.text s, rest)
    else .error (mismatch "a string" (b :: rest))

/-- Read a member that is a number below `2 ^ 32`. -/
def readIndex (text : Bytes) : Except Stop (FieldValue × Bytes) :=
  let checked : Number × Bytes → Except Stop (FieldValue × Bytes)
    | (.natural n, rest) =>
      if n < 0x100000000 then .ok (.index n, rest) else .error ⟨.wrongNumber "u32", rest⟩
    | (.other, rest) => .error ⟨.wrongNumber "u32", rest⟩
  match skipBlanks text with
  | [] => .error ⟨.endInValue, []⟩
  | b :: rest =>
    if b = 45 then (readNumber true rest).bind checked
    else if isDigit b then (readNumber false (b :: rest)).bind checked
    else .error (mismatch "u32" (b :: rest))

/-- Read a value, or the word `null` for none. -/
def readOptional (read : Bytes → Except Stop (FieldValue × Bytes)) (text : Bytes) :
    Except Stop (FieldValue × Bytes) :=
  match skipBlanks text with
  | 110 :: rest => (readWord [117, 108, 108] rest).map fun rest => (.absent, rest)
  | text => read text

/-- Read a member of this kind. -/
def FieldKind.read : FieldKind → Bytes → Except Stop (FieldValue × Bytes)
  | .text => readText
  | .optionalText => readOptional readText
  | .optionalIndex => readOptional readIndex

/-- The values of all fields, in their order, given those that were found. -/
def complete (fields : List Field) (found : FieldValues) : Except Reason FieldValues :=
  fields.mapM fun f =>
    match found.lookup f.name with
    | some v => .ok (f.name, v)
    | none =>
      match f.kind with
      | .text => .error (.missingField f.name)
      | .optionalText | .optionalIndex => .ok (f.name, .absent)

/-- Read the key and the value of a member behind the opening quote of the key. -/
def readMember (fields : List Field) (found : FieldValues) (text : Bytes) :
    Except Stop (FieldValues × Bytes) := do
  let (key, text) ← unquote text
  match fields.find? (·.name = key) with
  | none =>
    let text ← readColon text
    let text ← passValue text
    return (found, text)
  | some f =>
    if (found.lookup key).isSome then throw ⟨.duplicateField key, text⟩
    else
      let text ← readColon text
      let (value, text) ← f.kind.read text
      return ((key, value) :: found, text)

/-- What comes next inside a bracket: its end, or one more element. -/
inductive Upcoming where
  | finished (rest : Bytes)
  | element (text : Bytes)

/-- Find the next member of an object; its text starts behind the opening quote of the key. -/
def nextMember (first : Bool) (text : Bytes) : Except Stop Upcoming :=
  let key : Bytes → Except Stop Upcoming
    | 34 :: rest => .ok (.element rest)
    | text => .error ⟨.keyNotText, text⟩
  match skipBlanks text with
  | [] => .error ⟨.endInObject, []⟩
  | b :: rest =>
    if b = 125 then .ok (.finished rest)
    else if first then key (b :: rest)
    else if b = 44 then
      match skipBlanks rest with
      | [] => .error ⟨.endInValue, []⟩
      | c :: after => if c = 125 then .error ⟨.trailingComma, c :: after⟩ else key (c :: after)
    else .error ⟨.expectedObjectEnd, b :: rest⟩

/-- Read the members of an object up to its end. The first argument bounds their number. -/
def readMembers (fields : List Field) : Nat → (first : Bool) → FieldValues → Bytes →
    Except Stop (FieldValues × Bytes)
  | 0, _, _, text => .error ⟨.endInObject, text⟩
  | steps + 1, first, found, text =>
    match nextMember first text with
    | .error stop => .error stop
    | .ok (.finished rest) =>
      match complete fields found with
      | .ok values => .ok (values, rest)
      | .error reason => .error ⟨reason, rest⟩
    | .ok (.element text) =>
      match readMember fields found text with
      | .error stop => .error stop
      | .ok (found, rest) => readMembers fields steps false found rest

/-- Find the next element of a list, or the list's end. -/
def nextElement (first : Bool) (text : Bytes) : Except Stop Upcoming :=
  match skipBlanks text with
  | [] => .error ⟨.endInList, []⟩
  | b :: rest =>
    if b = 93 then .ok (.finished rest)
    else if first then .ok (.element (b :: rest))
    else if b = 44 then
      match skipBlanks rest with
      | [] => .error ⟨.endInValue, []⟩
      | c :: after =>
        if c = 93 then .error ⟨.trailingComma, c :: after⟩ else .ok (.element (c :: after))
    else .error ⟨.expectedListEnd, b :: rest⟩

/-- Read the end of a list that has no more elements to give. -/
def endList (text : Bytes) : Except Stop Bytes :=
  match skipBlanks text with
  | [] => .error ⟨.endInList, []⟩
  | b :: rest =>
    if b = 93 then .ok rest
    else if b = 44 then
      match skipBlanks rest with
      | 93 :: after => .error ⟨.trailingComma, 93 :: after⟩
      | text => .error ⟨.trailingCharacters, text⟩
    else .error ⟨.trailingCharacters, b :: rest⟩

/-- Read the elements of a list, one for each field; `count` of them were read before. -/
def readElements (count : Nat) : List Field → Bytes → Except Stop (FieldValues × Bytes)
  | [], text => (endList text).map fun rest => ([], rest)
  | f :: fields, text => do
    match ← nextElement (count == 0) text with
    | .finished rest => throw ⟨.tooFewElements count, rest⟩
    | .element text =>
      let (value, text) ← f.kind.read text
      let (values, text) ← readElements (count + 1) fields text
      return ((f.name, value) :: values, text)

/-- Read a record and return what follows it. -/
def readFields (fields : List Field) (text : Bytes) : Except Stop (FieldValues × Bytes) :=
  match skipBlanks text with
  | [] => .error ⟨.endInValue, []⟩
  | b :: rest =>
    if b = 123 then readMembers fields (rest.length + 1) true [] rest
    else if b = 91 then readElements 0 fields rest
    else .error (mismatch "a record" (b :: rest))

/-- Read a document that consists of one record. -/
def readRecord (fields : List Field) (text : Bytes) : Except Fault FieldValues :=
  match readFields fields text with
  | .error stop => .error (stop.toFault text)
  | .ok (values, rest) =>
    match skipBlanks rest with
    | [] => .ok values
    | b :: more => .error (Stop.toFault text ⟨.trailingCharacters, b :: more⟩)

/-- The text of a value that a field holds; absent fields have none. -/
def FieldValue.write? : FieldValue → Option Bytes
  | .text s => some (quote (Bytes.ofText s))
  | .index n => some (Bytes.ofText (toString n))
  | .absent => none

/-- The text of a member; members with absent values are left out. -/
def writeMember? (member : String × FieldValue) : Option Bytes :=
  member.2.write?.map fun value => quote (Bytes.ofText member.1) ++ 58 :: value

/-- Texts with commas between them. -/
def commaSeparated : List Bytes → Bytes
  | [] => []
  | [x] => x
  | x :: y :: rest => x ++ 44 :: commaSeparated (y :: rest)

/-- A record as an object. Members that are absent are left out. -/
def writeRecord (values : FieldValues) : Bytes :=
  123 :: commaSeparated (values.filterMap writeMember?) ++ [125]

end Framecast.Json
