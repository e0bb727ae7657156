import Licensing.Time.Calendar

/-!
# Instants

Instants of universal time, to the nanosecond. A leap second follows the second in which its
instants are counted.

## Main definitions

* `Instant` — an instant.
* `Instant.InCalendar` — the instant falls on a day that has a date.
* `Instant.ofMillis?`, `Instant.ofMicros?` — instants of counted milliseconds and microseconds.
* `Instant.toMillis`, `Instant.toDate` — the whole milliseconds up to an instant.
* `Instant.add?` — an instant some nanoseconds later or earlier.
* `Instant.since` — the nanoseconds from one instant to another.
-/

namespace Licensing

/-- An instant of universal time. -/
structure Instant where
  /-- The whole seconds since the start of 1970, leap seconds not counted. -/
  seconds : Int
  /-- The nanoseconds since then, less than `2 * 10 ^ 9`; those from `10 ^ 9` on lie in a leap
  second. -/
  nanos : Nat
  deriving DecidableEq, Repr

namespace Instant

/-- The number of the day, counted from 1 January 1970. -/
def day (t : Instant) : Int :=
  t.seconds / 86400

/-- The seconds since the start of the day. -/
def secondOfDay (t : Instant) : Nat :=
  (t.seconds % 86400).toNat

/-- The instant falls on a day that has a date. -/
def InCalendar (t : Instant) : Prop :=
  Date.first ≤ t.day ∧ t.day ≤ Date.last

instance (t : Instant) : Decidable t.InCalendar :=
  inferInstanceAs (Decidable (_ ∧ _))

/-- The instant, if it falls on a day that has a date. -/
def check (t : Instant) : Option Instant :=
  if t.InCalendar then some t else none

/-- The instant after `n` units since the start of 1970, with `units` of them in a second. -/
def ofUnits (units : Nat) (n : Int) : Instant :=
  ⟨n / units, (n % units).toNat * (1000000000 / units)⟩

/-- The instant of some milliseconds since the start of 1970. -/
def ofMillis? (millis : Int) : Option Instant :=
  (ofUnits 1000 millis).check

/-- The instant of some microseconds since the start of 1970. -/
def ofMicros? (micros : Int) : Option Instant :=
  (ofUnits 1000000 micros).check

/-- The whole milliseconds from the start of 1970 up to an instant. -/
def toMillis (t : Instant) : Int :=
  t.seconds * 1000 + t.nanos / 1000000

/-- The same milliseconds, as the dates of licenses count them. -/
def toDate (t : Instant) : Int64 :=
  Int64.ofInt t.toMillis

/-- The leap seconds that pass between the times of day of two instants. One is known of only if the
instant with the earlier time of day lies in it. -/
def leapSeconds (later earlier : Instant) : Int :=
  if earlier.secondOfDay < later.secondOfDay ∧ 1000000000 ≤ earlier.nanos then 1
  else if later.secondOfDay < earlier.secondOfDay ∧ 1000000000 ≤ later.nanos then -1
  else 0

/-- The nanoseconds from one instant to another. -/
def since (later earlier : Instant) : Int :=
  (later.seconds - earlier.seconds + leapSeconds later earlier) * 1000000000 +
    ((later.nanos : Int) - earlier.nanos)

/-- The instant some nanoseconds after the start of a second, or before it. -/
def ofNanos (seconds nanos : Int) : Instant :=
  ⟨seconds + nanos / 1000000000, (nanos % 1000000000).toNat⟩

/-- The instant some nanoseconds later, or earlier if there are fewer than none. From a leap second,
less than a second later or earlier is still counted within the same second. -/
def add (t : Instant) (nanos : Int) : Instant :=
  let whole := nanos.tdiv 1000000000
  let total := (t.nanos : Int) + nanos.tmod 1000000000
  if t.nanos < 1000000000 then ofNanos (t.seconds + whole) total
  else if 0 < whole ∨ 2000000000 ≤ total then ofNanos (t.seconds + whole) (total - 1000000000)
  else if whole < 0 then ofNanos (t.seconds + 1 + whole) (total - 1000000000)
  else ⟨t.seconds, total.toNat⟩

/-- The instant some nanoseconds later, if it falls on a day that has a date. -/
def add? (t : Instant) (nanos : Int) : Option Instant :=
  (t.add nanos).check

end Instant

end Licensing
