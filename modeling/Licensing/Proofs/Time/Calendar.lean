import Licensing.Time.Calendar
import Mathlib.Tactic.IntervalCases

/-!
# Days and their dates

Every day has a date that exists, and the date leads back to the day. Both are shown of the date of
a day within the year that begins with March, to which the day of a number is reduced.

## Main definitions

* `Date.yearOfEra`, `Date.daysBefore` — the year of a day within its era, and the days of the era
  before that year.
* `Date.ofMarch` — the date of a day of the year that begins with March.

## Main results

* `Date.exists_place`, `Date.yearOfEra_spec` — where in its era a day lies.
* `Date.toDays_ofDays`, `Date.isValid_ofDays` — the date of a day leads back to the day, and exists.
-/

namespace Licensing.Date

/-- The year of its era in which a day of the era lies. -/
def yearOfEra (day : Int) : Int :=
  (day - day / 1460 + day / 36524 - day / 146096) / 365

/-- The days of an era before one of its years. -/
def daysBefore (year : Int) : Int :=
  365 * year + year / 4 - year / 100

/-- The date of a day, counted from zero, of the year that begins with March of a year. -/
def ofMarch (year day : Int) : Date :=
  let month := (5 * day + 2) / 153
  let dayOfMonth := day - (153 * month + 2) / 5 + 1
  if month < 10 then ⟨year, (month + 3).toNat, dayOfMonth.toNat⟩
  else ⟨year + 1, (month - 9).toNat, dayOfMonth.toNat⟩

theorem ofDays_eq (days : Int) :
    ofDays days =
      ofMarch (yearOfEra ((days + 719468) % 146097) + (days + 719468) / 146097 * 400)
        ((days + 719468) % 146097 - daysBefore (yearOfEra ((days + 719468) % 146097))) :=
  rfl

/-! ### Within an era -/

/-- A day of an era lies in one of its four centuries, in one of the century's spans of four years,
and in one of their years. The last day of an era is the one day more of its last century, and the
last day of four years is the one day more of the last of them. -/
theorem exists_place {day : Int} (h0 : 0 ≤ day) (h1 : day < 146097) :
    ∃ c q y left : Int, (0 ≤ c ∧ c ≤ 3) ∧ (0 ≤ q ∧ q ≤ 24) ∧ (0 ≤ y ∧ y ≤ 3) ∧
      (0 ≤ left ∧ left ≤ 365) ∧ (left = 365 → y = 3 ∧ (q = 24 → c = 3)) ∧
        day = 36524 * c + 1461 * q + 365 * y + left ∧
          yearOfEra day = 100 * c + 4 * q + y := by
  by_cases last : day = 146096
  · subst last
    exact ⟨3, 24, 3, 365, by decide⟩
  · obtain ⟨c, r, hc, hr⟩ : ∃ c r : Int, day = 36524 * c + r ∧ 0 ≤ r ∧ r < 36524 :=
      ⟨day / 36524, day % 36524, by omega, by omega⟩
    obtain ⟨q, s, hq, hs⟩ : ∃ q s : Int, r = 1461 * q + s ∧ 0 ≤ s ∧ s < 1461 :=
      ⟨r / 1461, r % 1461, by omega, by omega⟩
    -- towards the end of four years, `day / 1460` counts their leap day before it comes
    obtain ⟨t, ht, ht'⟩ : ∃ t : Int, 1460 * t ≤ 24 * c + q + s ∧ 24 * c + q + s < 1460 * t + 1460 :=
      ⟨(24 * c + q + s) / 1460, by omega, by omega⟩
    have leapDays : day / 1460 = 25 * c + q + t := by omega
    have centuries : day / 36524 = c := by omega
    have notLast : day / 146096 = 0 := by omega
    obtain ⟨y, hy, hy'⟩ : ∃ y : Int, 365 * y ≤ s - t ∧ s - t < 365 * y + 365 :=
      ⟨(s - t) / 365, by omega, by omega⟩
    refine ⟨c, q, y, s - 365 * y, ?_⟩
    rw [yearOfEra, leapDays, centuries, notLast]
    omega

/-- The year of a day is one of the 400 years of its era, and the day is one of its 365 days, or of
366 if the year ends with a leap day. -/
theorem yearOfEra_spec {day : Int} (h0 : 0 ≤ day) (h1 : day < 146097) :
    (0 ≤ yearOfEra day ∧ yearOfEra day < 400) ∧
      (0 ≤ day - daysBefore (yearOfEra day) ∧ day - daysBefore (yearOfEra day) ≤ 365) ∧
        (day - daysBefore (yearOfEra day) = 365 →
          (yearOfEra day + 1) % 4 = 0 ∧
            ((yearOfEra day + 1) % 100 ≠ 0 ∨ yearOfEra day + 1 = 400)) := by
  obtain ⟨c, q, y, left, hc, hq, hy, hl, leap, rfl, year⟩ := exists_place h0 h1
  clear h0 h1
  have fourths : (100 * c + 4 * q + y) / 4 = 25 * c + q := by omega
  have hundredths : (100 * c + 4 * q + y) / 100 = c := by omega
  rw [year, daysBefore, fourths, hundredths]
  clear year fourths hundredths
  refine ⟨by omega, by omega, fun long => ?_⟩
  obtain ⟨rfl, last⟩ := leap (by omega)
  omega

/-! ### Within a year -/

theorem toDays_ofMarch {year day : Int} (h0 : 0 ≤ day) (h1 : day ≤ 365) :
    toDays (ofMarch year day) =
      year / 400 * 146097 + (daysBefore (year % 400) + day) - 719468 := by
  rw [ofMarch]
  generalize hm : (5 * day + 2) / 153 = month
  have bounds : 0 ≤ month ∧ month < 12 := by omega
  split
  · have spring : ¬ (month + 3).toNat ≤ 2 := by omega
    simp only [toDays, daysBefore, if_neg spring]
    omega
  · have winter : (month - 9).toNat ≤ 2 := by omega
    have same : year + 1 - 1 = year := by omega
    simp only [toDays, daysBefore, if_pos winter, same]
    omega

theorem isValid_ofMarch {year day : Int} (h0 : 0 ≤ day) (h1 : day ≤ 365)
    (leap : day = 365 → isLeap (year + 1) = true) : (ofMarch year day).IsValid := by
  rw [ofMarch]
  generalize hm : (5 * day + 2) / 153 = month
  have low : 0 ≤ month := by omega
  have high : month < 12 := by omega
  rcases leapYear : isLeap (year + 1) with _ | _
  · have short : day ≠ 365 := fun long =>
      absurd (leapYear.symm.trans (leap long)) Bool.false_ne_true
    interval_cases month <;> simp [IsValid, daysIn, leapYear] <;> omega
  · interval_cases month <;> simp [IsValid, daysIn, leapYear] <;> omega

/-! ### All days -/

/-- The date of a day leads back to the day. -/
theorem toDays_ofDays (days : Int) : toDays (ofDays days) = days := by
  have low : 0 ≤ (days + 719468) % 146097 := by omega
  have high : (days + 719468) % 146097 < 146097 := by omega
  obtain ⟨⟨hy, hy'⟩, ⟨hl, hl'⟩, -⟩ := yearOfEra_spec low high
  rw [ofDays_eq, toDays_ofMarch hl hl']
  clear hl hl'
  generalize yearOfEra ((days + 719468) % 146097) = year at *
  have era : (year + (days + 719468) / 146097 * 400) / 400 = (days + 719468) / 146097 := by omega
  have within : (year + (days + 719468) / 146097 * 400) % 400 = year := by omega
  rw [era, within]
  generalize daysBefore year = before
  omega

/-- The date of a day exists. -/
theorem isValid_ofDays (days : Int) : (ofDays days).IsValid := by
  have low : 0 ≤ (days + 719468) % 146097 := by omega
  have high : (days + 719468) % 146097 < 146097 := by omega
  obtain ⟨-, ⟨hl, hl'⟩, leap⟩ := yearOfEra_spec low high
  rw [ofDays_eq]
  refine isValid_ofMarch hl hl' fun long => ?_
  have last := leap long
  simp only [isLeap, Bool.and_eq_true, Bool.or_eq_true, decide_eq_true_eq]
  clear leap long hl hl'
  omega

end Licensing.Date
