import Licensing.Text.Reader
import Licensing.Time.Diagnostic

/-!
# Timestamps

Instants as texts in the form of RFC 3339. Writing gives universal time with as few digits after the
point as are exact. There are two ways to read: the strict one takes the form itself, the relaxed
one also takes white space between the parts, short numbers, years of any length after a sign and
other spellings of the zone.

## Main definitions

* `Instant.toRfc3339` — the text of an instant.
* `Instant.ofRfc3339?` — the strict reading.
* `Instant.ofRelaxed?` — the relaxed reading.
-/

namespace Licensing

namespace Time

/-- The digits after the point that are exact: none, three, six or nine. -/
def fraction (nanos : Nat) : String :=
  if nanos = 0 then ""
  else if nanos % 1000000 = 0 then "." ++ Numeral.padded 3 (nanos / 1000000)
  else if nanos % 1000 = 0 then "." ++ Numeral.padded 6 (nanos / 1000)
  else "." ++ Numeral.padded 9 nanos

/-- The date and the time of day that a text names, and its distance from universal time. -/
structure Stamp where
  date : Date
  hour : Nat
  minute : Nat
  /-- The second, sixty for a leap second. -/
  second : Nat
  nanos : Nat
  /-- The seconds by which the clock is ahead of universal time. -/
  offset : Int
  deriving DecidableEq, Repr

/-- All numbers are within their bounds. -/
def Stamp.IsValid (s : Stamp) : Prop :=
  s.date.IsValid ∧ s.hour < 24 ∧ s.minute < 60 ∧ s.second ≤ 60 ∧ s.offset.natAbs < 86400

instance (s : Stamp) : Decidable s.IsValid :=
  inferInstanceAs (Decidable (_ ∧ _))

/-- The instant that a text names. Its day and, in universal time, the day of the instant have to
have dates. -/
def Stamp.instant? (s : Stamp) : Option Instant := do
  if ¬ s.IsValid then failure
  let leap := s.second = 60
  let seconds := s.date.toDays * 86400 + s.hour * 3600 + s.minute * 60 +
    (if leap then 59 else s.second)
  let shown ← Instant.check ⟨seconds, s.nanos + if leap then 1000000000 else 0⟩
  Instant.check { shown with seconds := seconds - s.offset }

/-- A point and digits after it, if there are any, as nanoseconds. Digits after the ninth are left
out. -/
def readFraction : Reader Nat := do
  match ← get with
  | '.' :: _ =>
    Reader.char '.'
    let run ← Reader.digits (some 9)
    if run.length = 0 then failure
    Reader.skipWhile Char.isDigit
    return Nat.ofDigitChars 10 run 0 * Nat.pow 10 (9 - run.length)
  | _ => return 0

/-- A signed distance from universal time in hours and minutes. The hours and the minutes have two
digits each, and `separator` stands between them. -/
def readOffset (separator : Reader Unit) : Reader Int := do
  let negative ←
    match ← get with
    | '+' :: rest => set rest; pure false
    | '-' :: rest => set rest; pure true
    | '\u2212' :: rest => set rest; pure true
    | _ => failure
  let hours ← Reader.number 2 (some 2)
  separator
  let minutes ← Reader.number 2 (some 2)
  if 60 ≤ minutes then failure
  let seconds : Int := hours * 3600 + minutes * 60
  return if negative then -seconds else seconds

/-- A distance from universal time, or a letter for none. -/
def readZone (separator : Reader Unit) : Reader Int := do
  match ← get with
  | 'Z' :: rest => set rest; return 0
  | 'z' :: rest => set rest; return 0
  | _ => readOffset separator

/-- The strict form. -/
def readStrict : Reader Stamp := do
  let year ← Reader.number 4 (some 4)
  Reader.char '-'
  let month ← Reader.number 2 (some 2)
  Reader.char '-'
  let day ← Reader.number 2 (some 2)
  Reader.oneOf ['T', 't', ' ']
  let hour ← Reader.number 2 (some 2)
  Reader.char ':'
  let minute ← Reader.number 2 (some 2)
  Reader.char ':'
  let second ← Reader.number 2 (some 2)
  let nanos ← readFraction
  let offset ← readZone (Reader.char ':')
  return ⟨⟨year, month, day⟩, hour, minute, second, nanos, offset⟩

/-- A year: as many digits as there are after a sign, else at most four. -/
def readYear : Reader Int := do
  Reader.skipSpace
  match ← get with
  | '-' :: rest =>
    set rest
    let n ← Reader.number 1 none
    return -n
  | '+' :: rest =>
    set rest
    let n ← Reader.number 1 none
    return n
  | _ =>
    let n ← Reader.number 1 (some 4)
    return n

/-- A number of one or two digits after white space. -/
def readPart : Reader Nat := do
  Reader.skipSpace
  Reader.number 1 (some 2)

/-- A character after white space. -/
def readMark (c : Char) : Reader Unit := do
  Reader.skipSpace
  Reader.char c

/-- A zone of the relaxed form: also the letters `UTC` in upper or lower case. -/
def readRelaxedZone : Reader Int := do
  match ← get with
  | u :: t :: c :: rest =>
    if [u, t, c].map Char.toUpper = ['U', 'T', 'C'] then
      set rest
      return 0
    else readZone (Reader.skipWhile fun c => c = ':' || Text.isSpace c)
  | _ => readZone (Reader.skipWhile fun c => c = ':' || Text.isSpace c)

/-- The relaxed form. -/
def readRelaxed : Reader Stamp := do
  let year ← readYear
  readMark '-'
  let month ← readPart
  readMark '-'
  let day ← readPart
  Reader.oneOf ['T', 't', ' ']
  let hour ← readPart
  readMark ':'
  let minute ← readPart
  readMark ':'
  let second ← readPart
  let nanos ← readFraction
  Reader.skipSpace
  let offset ← readRelaxedZone
  Reader.skipSpace
  return ⟨⟨year, month, day⟩, hour, minute, second, nanos, offset⟩

end Time

namespace Instant

/-- The text of an instant. -/
def toRfc3339 (t : Instant) : String :=
  let date := Date.ofDays t.day
  let second := t.secondOfDay
  let leap := t.nanos / 1000000000
  Time.year date.year ++ "-" ++ Numeral.padded 2 date.month ++ "-" ++ Numeral.padded 2 date.day ++
    "T" ++ Numeral.padded 2 (second / 3600) ++ ":" ++ Numeral.padded 2 (second / 60 % 60) ++ ":" ++
    Numeral.padded 2 (second % 60 + leap) ++ Time.fraction (t.nanos % 1000000000) ++ "Z"

/-- The instant of a text in the strict form. -/
def ofRfc3339? (text : String) : Option Instant :=
  (Time.readStrict.all text).bind Time.Stamp.instant?

/-- The instant of a text in the relaxed form. -/
def ofRelaxed? (text : String) : Option Instant :=
  (Time.readRelaxed.all text).bind Time.Stamp.instant?

end Instant

end Licensing
