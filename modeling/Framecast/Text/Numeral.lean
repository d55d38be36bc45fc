/-!
# Decimal numerals

A numeral is one or more ASCII digits, with an optional plus sign in front; leading zeros are
allowed. `bounded?` reads one whose value is below a bound.
-/

namespace Framecast.Text

/-- The value of a decimal digit. -/
def digit? (c : Char) : Option Nat :=
  if '0' ≤ c ∧ c ≤ '9' then some (c.toNat - '0'.toNat) else none

/-- The number read so far, continued by more digits. -/
def digitsFrom (acc : Nat) : List Char → Option Nat
  | [] => some acc
  | c :: cs => (digit? c).bind fun d => digitsFrom (10 * acc + d) cs

/-- The value of a text of decimal digits, of which there must be one. -/
def digits? : List Char → Option Nat
  | [] => none
  | cs => digitsFrom 0 cs

/-- The value of a numeral: digits after an optional plus sign. -/
def numeral? : List Char → Option Nat
  | '+' :: cs => digits? cs
  | cs => digits? cs

/-- The value of a numeral, if it is below a bound. -/
def bounded? (bound : Nat) (cs : List Char) : Option Nat :=
  (numeral? cs).filter (· < bound)

/-- A number in decimal, with zeros in front up to a width. -/
def padded (width n : Nat) : String :=
  let text := toString n
  String.ofList (List.replicate (width - text.length) '0') ++ text

end Framecast.Text
