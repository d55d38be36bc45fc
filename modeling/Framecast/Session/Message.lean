import Framecast.Json.Record

/-!
# Messages of the attach exchange

One line of JSON each way. The request names a method; the answer names the capabilities and the
place of the consumer's socket among the descriptors that came with it, or an error.
-/

namespace Framecast

/-- What a consumer asks of a server. -/
structure AttachRequest where
  method : String
  deriving DecidableEq, Repr

namespace AttachRequest

/-- The only method there is. -/
def attach : AttachRequest := ⟨"attach"⟩

/-- The members of a request. -/
def fields : List Json.Field := [⟨"method", .text⟩]

/-- A request as an object. -/
def encode (r : AttachRequest) : Bytes :=
  Json.writeRecord [("method", .text r.method)]

/-- Read a request. -/
def decode (line : Bytes) : Except Json.Fault AttachRequest :=
  (Json.readRecord fields line).map fun values =>
    match values.lookup "method" with
    | some (.text method) => ⟨method⟩
    | _ => ⟨""⟩

end AttachRequest

/-- What a server answers: a capability string and a socket, or an error. -/
structure AttachAnswer where
  caps : Option String := none
  /-- Place of the socket among the descriptors. -/
  handle : Option Nat := none
  error : Option String := none
  deriving DecidableEq, Repr

namespace AttachAnswer

/-- The members of an answer. -/
def fields : List Json.Field :=
  [⟨"caps", .optionalText⟩, ⟨"handle", .optionalIndex⟩, ⟨"error", .optionalText⟩]

/-- A text that may be absent, as a member. -/
def optionalText : Option String → Json.FieldValue
  | some s => .text s
  | none => .absent

/-- A number that may be absent, as a member. -/
def optionalIndex : Option Nat → Json.FieldValue
  | some n => .index n
  | none => .absent

/-- An answer as an object. -/
def encode (a : AttachAnswer) : Bytes :=
  Json.writeRecord [("caps", optionalText a.caps), ("handle", optionalIndex a.handle),
    ("error", optionalText a.error)]

/-- The text of a member, if it has one. -/
def text? (name : String) (values : Json.FieldValues) : Option String :=
  match values.lookup name with
  | some (.text s) => some s
  | _ => none

/-- The number of a member, if it has one. -/
def index? (name : String) (values : Json.FieldValues) : Option Nat :=
  match values.lookup name with
  | some (.index n) => some n
  | _ => none

/-- Read an answer. -/
def decode (line : Bytes) : Except Json.Fault AttachAnswer :=
  (Json.readRecord fields line).map fun values =>
    ⟨text? "caps" values, index? "handle" values, text? "error" values⟩

end AttachAnswer

/-- The byte that ends a message. -/
def newline : UInt8 := 10

/-- A message as it is sent. -/
def asLine (message : Bytes) : Bytes :=
  message ++ [newline]

end Framecast
