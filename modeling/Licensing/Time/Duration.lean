import Licensing.Text.Numeral

/-!
# Lengths of time in diagnostics

A length of time in the largest of the units second, millisecond, microsecond and nanosecond that is
not longer, with as few digits after the point as are exact.

## Main definitions

* `Time.duration` — the text of a number of nanoseconds.
-/

namespace Licensing.Time

/-- The digits after the point of `rest / unit`, without zeros at the end, for a unit that is a
power of ten. -/
def decimals (unit rest : Nat) : String :=
  if rest = 0 then ""
  else
    let digits := (Numeral.padded ((Nat.toDigits 10 unit).length - 1) rest).toList
    "." ++ String.ofList (digits.reverse.dropWhile (· == '0')).reverse

/-- A number of nanoseconds in a unit of as many. -/
def inUnit (unit : Nat) (name : String) (nanos : Nat) : String :=
  Numeral.ofNat (nanos / unit) ++ decimals unit (nanos % unit) ++ name

/-- The text of a number of nanoseconds. -/
def duration (nanos : Nat) : String :=
  if 1000000000 ≤ nanos then inUnit 1000000000 "s" nanos
  else if 1000000 ≤ nanos then inUnit 1000000 "ms" nanos
  else if 1000 ≤ nanos then inUnit 1000 "µs" nanos
  else inUnit 1 "ns" nanos

end Licensing.Time
