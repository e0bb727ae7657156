import Licensing.Text.Numeral
import Licensing.Time.Instant

/-!
# Dates in diagnostics

The date and the time of an instant of counted milliseconds as messages show them, as in
`Thu, 1 Jan 1970 00:00:00 UTC (+0000)`. An instant on a day without a date is shown by its count.

## Main definitions

* `Time.year` — a year, with a sign if it does not have one to four digits.
* `Time.diagnostic` — the date and the time of an instant.
-/

namespace Licensing.Time

/-- The year with at least four digits; a year before zero or after 9999 has a sign. -/
def year (y : Int) : String :=
  if 0 ≤ y ∧ y ≤ 9999 then Numeral.padded 4 y.toNat
  else (if y < 0 then "-" else "+") ++ Numeral.padded 4 y.natAbs

/-- The names of the days of the week, from Sunday on. -/
def weekdayNames : List String :=
  ["Sun", "Mon", "Tue", "Wed", "Thu", "Fri", "Sat"]

/-- The names of the months. -/
def monthNames : List String :=
  ["Jan", "Feb", "Mar", "Apr", "May", "Jun", "Jul", "Aug", "Sep", "Oct", "Nov", "Dec"]

/-- The time of day of a number of seconds since midnight. -/
def clock (seconds : Nat) : String :=
  Numeral.padded 2 (seconds / 3600) ++ ":" ++ Numeral.padded 2 (seconds / 60 % 60) ++ ":" ++
    Numeral.padded 2 (seconds % 60)

/-- The date and the time of an instant of counted milliseconds. -/
def diagnostic (millis : Int) : String :=
  match Instant.ofMillis? millis with
  | none => Numeral.ofInt millis ++ " ms"
  | some t =>
    let date := Date.ofDays t.day
    weekdayNames.getD (weekday t.day) "" ++ ", " ++ Numeral.ofNat date.day ++ " " ++
      monthNames.getD (date.month - 1) "" ++ " " ++ year date.year ++ " " ++
      clock t.secondOfDay ++ " UTC (+0000)"

end Licensing.Time
