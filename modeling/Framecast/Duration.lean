import Framecast.Text.Numeral

/-!
# Durations

Spans of time in whole nanoseconds, and their text: the largest of the units s, ms, µs and ns in
which the value is at least one, with the rest as a decimal fraction without trailing zeros.
-/

namespace Framecast

/-- A length of time, in whole nanoseconds. -/
structure Duration where
  nanos : Nat
  deriving DecidableEq, Repr, Inhabited

namespace Duration

/-- So many microseconds. -/
def ofMicros (n : Nat) : Duration := ⟨n * 1000⟩

/-- So many milliseconds. -/
def ofMillis (n : Nat) : Duration := ⟨n * 1000000⟩

/-- So many seconds. -/
def ofSeconds (n : Nat) : Duration := ⟨n * 1000000000⟩

/-- The whole milliseconds of a duration. -/
def millis (d : Duration) : Nat :=
  d.nanos / 1000000

/-- The digits of a fraction with so many places, without its trailing zeros. -/
def fraction (places n : Nat) : String :=
  let digits := (Text.padded places n).toList
  String.ofList (digits.reverse.dropWhile (· == '0')).reverse

/-- A number of units, of which the unit has so many decimal places. -/
def inUnit (places : Nat) (name : String) (nanos : Nat) : String :=
  let rest := nanos % Nat.pow 10 places
  let point := if rest = 0 then "" else "." ++ fraction places rest
  toString (nanos / Nat.pow 10 places) ++ point ++ name

/-- A duration in the largest of its units that is not longer than it. -/
def text (d : Duration) : String :=
  if 1000000000 ≤ d.nanos then inUnit 9 "s" d.nanos
  else if 1000000 ≤ d.nanos then inUnit 6 "ms" d.nanos
  else if 1000 ≤ d.nanos then inUnit 3 "µs" d.nanos
  else inUnit 0 "ns" d.nanos

end Duration

end Framecast
