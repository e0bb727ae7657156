/-!
# The calendar

Days of the Gregorian calendar, extended to all years, and their numbers, counted from 1 January
1970.

## Main definitions

* `Date` — a year, a month and a day.
* `Date.toDays`, `Date.ofDays` — the number of a day, and the day of a number.
* `Date.IsValid` — the month and the day exist.
* `weekday` — the day of the week.

## Implementation notes

Years are counted from March on, so that the leap day ends them, and grouped into eras of 400 years,
which all have 146097 days.
-/

namespace Licensing

/-- A year, a month and a day. -/
structure Date where
  year : Int
  month : Nat
  day : Nat
  deriving DecidableEq, Repr

namespace Date

/-- The year has a leap day. -/
def isLeap (year : Int) : Bool :=
  year % 4 = 0 && (year % 100 ≠ 0 || year % 400 = 0)

/-- The number of days of a month. -/
def daysIn (year : Int) (month : Nat) : Nat :=
  if month = 2 then (if isLeap year then 29 else 28)
  else if month = 4 ∨ month = 6 ∨ month = 9 ∨ month = 11 then 30
  else 31

/-- The month and the day exist. -/
def IsValid (date : Date) : Prop :=
  1 ≤ date.month ∧ date.month ≤ 12 ∧ 1 ≤ date.day ∧ date.day ≤ daysIn date.year date.month

instance (date : Date) : Decidable date.IsValid :=
  inferInstanceAs (Decidable (_ ∧ _))

/-- The number of a day, counted from 1 January 1970. -/
def toDays (date : Date) : Int :=
  let year := if date.month ≤ 2 then date.year - 1 else date.year
  let month := if date.month ≤ 2 then date.month + 9 else date.month - 3
  let era := year / 400
  let yearOfEra := year % 400
  let dayOfYear := (153 * (month : Int) + 2) / 5 + date.day - 1
  let dayOfEra := yearOfEra * 365 + yearOfEra / 4 - yearOfEra / 100 + dayOfYear
  era * 146097 + dayOfEra - 719468

/-- The day of a number, counted from 1 January 1970. -/
def ofDays (days : Int) : Date :=
  let era := (days + 719468) / 146097
  let dayOfEra := (days + 719468) % 146097
  let yearOfEra := (dayOfEra - dayOfEra / 1460 + dayOfEra / 36524 - dayOfEra / 146096) / 365
  let dayOfYear := dayOfEra - (365 * yearOfEra + yearOfEra / 4 - yearOfEra / 100)
  let month := (5 * dayOfYear + 2) / 153
  let day := dayOfYear - (153 * month + 2) / 5 + 1
  let year := yearOfEra + era * 400
  if month < 10 then ⟨year, (month + 3).toNat, day.toNat⟩
  else ⟨year + 1, (month - 9).toNat, day.toNat⟩

/-- The first day that has a date. -/
def first : Int :=
  toDays ⟨-262143, 1, 1⟩

/-- The last day that has a date. -/
def last : Int :=
  toDays ⟨262142, 12, 31⟩

end Date

/-- The day of the week of the day with a number, Sunday being zero. -/
def weekday (days : Int) : Nat :=
  ((days + 4) % 7).toNat

end Licensing
