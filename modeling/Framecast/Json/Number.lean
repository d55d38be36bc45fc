import Framecast.Json.Fault

/-!
# JSON numbers

`readNumber` reads a number and tells a natural number that fits a word from any other number; a
number that is too large for a double-precision value is refused. `passNumber` only finds the end of
a number. Both start behind the sign.
-/

namespace Framecast.Json

/-- A number as far as anyone asks. -/
inductive Number where
  /-- Digits only, and below `2 ^ 64`. -/
  | natural (n : Nat)
  | other
  deriving DecidableEq, Repr

/-- A decimal digit. -/
def isDigit (b : UInt8) : Bool :=
  48 ≤ b && b ≤ 57

/-- The letter before an exponent. -/
def isExponentMark (b : UInt8) : Bool :=
  b = 101 || b = 69

/-- A plus or a minus. -/
def isSign (b : UInt8) : Bool :=
  b = 43 || b = 45

/-- The value of a decimal digit. -/
def digitOf (b : UInt8) : Nat :=
  b.toNat - 48

/-- The digits of a number are taken as far as their value stays below this. -/
def significandLimit : Nat := 0x10000000000000000

/-- A magnitude: a significand times a power of ten. -/
structure Magnitude where
  significand : Nat := 0
  exponent : Int := 0
  /-- The next digit did not fit, and neither does any behind it. -/
  full : Bool := false
  deriving DecidableEq, Repr, Inhabited

namespace Magnitude

/-- Take a digit into the significand if it fits; the power of ten grows by `grown` if it does and
by `lost` if it does not. -/
def takeDigit (grown lost : Int) (m : Magnitude) (b : UInt8) : Magnitude :=
  let longer := 10 * m.significand + digitOf b
  if !m.full && longer < significandLimit then ⟨longer, m.exponent + grown, false⟩
  else ⟨m.significand, m.exponent + lost, true⟩

/-- The digits before the point: one that does not fit still counts as a place. -/
def ofWhole (digits : Bytes) : Magnitude :=
  digits.foldl (takeDigit 0 1) {}

/-- Go on with the digits behind the point: one that does not fit is passed over. -/
def withFraction (digits : Bytes) (m : Magnitude) : Magnitude :=
  digits.foldl (takeDigit (-1) 0) { m with full := false }

end Magnitude

/-- The nearest natural number that a double holds, as far as doubles go; of two the even one. -/
def roundToDouble (n : Nat) : Nat :=
  let shift := n.log2 - 52
  let unit := Nat.pow 2 shift
  let (kept, rest) := (n / unit, n % unit)
  if 2 * rest < unit ∨ (2 * rest = unit ∧ kept % 2 = 0) then kept * unit else (kept + 1) * unit

/-- The least magnitude that rounds to no finite double. -/
def doubleLimit : Nat := Nat.pow 2 1024 - Nat.pow 2 970

/-- The largest power of ten that a double holds. -/
def maxExponent : Nat := 308

/-- Whether a magnitude is a finite double. The significand and the power of ten are rounded on
their own, and then their product. -/
def Magnitude.isFinite (m : Magnitude) : Bool :=
  if m.significand = 0 then true
  else
    match m.exponent with
    | .negSucc _ => true
    | .ofNat e =>
      e ≤ maxExponent &&
        roundToDouble m.significand * roundToDouble (Nat.pow 10 e) < doubleLimit

/-- A number that is no word, if a double holds it. -/
def inexact (m : Magnitude) (rest : Bytes) : Except Stop (Number × Bytes) :=
  if m.isFinite then .ok (.other, rest) else .error ⟨.numberOutOfRange, rest⟩

/-- Exponents beyond this are not read any further. -/
def exponentLimit : Nat := 0x7fffffff

/-- Move the point of a number. -/
def Magnitude.scale (negative : Bool) (size : Nat) (m : Magnitude) : Magnitude :=
  { m with exponent := if negative then m.exponent - size else m.exponent + size }

/-- Read the digits of an exponent. One that is too large makes the number too large or zero. -/
def readExponentDigits (negative : Bool) (m : Magnitude) (size : Nat) :
    Bytes → Except Stop (Number × Bytes)
  | [] => inexact (m.scale negative size) []
  | b :: rest =>
    if isDigit b then
      let larger := 10 * size + digitOf b
      if larger ≤ exponentLimit then readExponentDigits negative m larger rest
      else if m.significand = 0 ∨ negative then .ok (.other, rest.dropWhile isDigit)
      else .error ⟨.numberOutOfRange, rest⟩
    else inexact (m.scale negative size) (b :: rest)

/-- Read an exponent, behind its mark. -/
def readExponent (m : Magnitude) (text : Bytes) : Except Stop (Number × Bytes) :=
  let (negative, text) := match text with
    | b :: rest => if isSign b then (b == 45, rest) else (false, text)
    | [] => (false, [])
  match text with
  | [] => .error ⟨.endInValue, []⟩
  | b :: rest =>
    if isDigit b then readExponentDigits negative m (digitOf b) rest
    else .error ⟨.invalidNumber, rest⟩

/-- Read what may follow the digits before the point. -/
def readFraction (negative : Bool) (whole : Magnitude) (text : Bytes) :
    Except Stop (Number × Bytes) :=
  match text with
  | [] => finish text
  | b :: rest =>
    if b = 46 then
      let places := rest.takeWhile isDigit
      let rest := rest.dropWhile isDigit
      if places.isEmpty then
        .error ⟨if rest.isEmpty then .endInValue else .invalidNumber, rest⟩
      else
        let m := whole.withFraction places
        match rest with
        | [] => inexact m []
        | e :: after => if isExponentMark e then readExponent m after else inexact m rest
    else if isExponentMark b then readExponent whole rest
    else finish text
where
  finish (text : Bytes) : Except Stop (Number × Bytes) :=
    if !negative && !whole.full then .ok (.natural whole.significand, text)
    else inexact whole text

/-- Read a number, behind its sign. -/
def readNumber (negative : Bool) : Bytes → Except Stop (Number × Bytes)
  | [] => .error ⟨.endInValue, []⟩
  | b :: rest =>
    if b = 48 then
      if (rest.takeWhile isDigit).isEmpty then readFraction negative {} rest
      else .error ⟨.invalidNumber, rest⟩
    else if isDigit b then
      let whole := Magnitude.ofWhole (b :: rest.takeWhile isDigit)
      readFraction negative whole (rest.dropWhile isDigit)
    else .error ⟨.invalidNumber, rest⟩

/-- Find the end of an exponent behind its mark. -/
def passExponent (text : Bytes) : Except Stop Bytes :=
  let text := match text with
    | b :: rest => if isSign b then rest else text
    | [] => []
  match text with
  | [] => .error ⟨.invalidNumber, []⟩
  | b :: rest =>
    if isDigit b then .ok (rest.dropWhile isDigit) else .error ⟨.invalidNumber, rest⟩

/-- Pass over what may follow the digits of a number. -/
def passFraction : Bytes → Except Stop Bytes
  | [] => .ok []
  | b :: rest =>
    if b = 46 then
      let left := rest.dropWhile isDigit
      if (rest.takeWhile isDigit).isEmpty then .error ⟨.invalidNumber, rest⟩
      else
        match left with
        | [] => .ok []
        | e :: after => if isExponentMark e then passExponent after else .ok left
    else if isExponentMark b then passExponent rest
    else .ok (b :: rest)

/-- Pass over a number, behind its sign, without its value. -/
def passNumber : Bytes → Except Stop Bytes
  | [] => .error ⟨.invalidNumber, []⟩
  | b :: rest =>
    if b = 48 then
      if (rest.takeWhile isDigit).isEmpty then passFraction rest else .error ⟨.invalidNumber, rest⟩
    else if isDigit b then passFraction (rest.dropWhile isDigit)
    else .error ⟨.invalidNumber, rest⟩

end Framecast.Json
