import Licensing.Proofs.Text.Numeral
import Licensing.Proofs.Time.Rfc3339
import Mathlib.Tactic.Ring

/-!
# What clocks show

A clock counts units of a second, or starts at a time that is read from a text or given as it is,
and it may be set forward or back. A text can name a leap second, but only one that ends a minute,
since zones differ by whole minutes; and a clock that is set by less than a second within a leap
second stays in it. So all that clocks show are instants whose texts read back as the instants,
unless a clock is given a leap second within a minute.

## Main definitions

* `Reader.Gives` — all values of a reader have a property.
* `Time.Stamp.IsWhole` — less than a second is left out, and the zone is a number of minutes.
* `Instant.OnClock` — the instants that a clock shows.

## Main results

* `Reader.Gives.bind` — what a reader gives that goes on with what another one gave.
* `Time.gives_readStrict`, `Time.gives_readRelaxed` — what the two ways of reading give.
* `Instant.isValid_of_ofRfc3339?`, `Instant.isValid_of_ofRelaxed?` — times that are read are valid.
* `Instant.IsValid.add?` — times that are set forward or back stay valid.
* `Instant.OnClock.isValid` — so are all times on clocks, as far as those that are given are.
* `Instant.onClock_inRange_iff` — all instants of the calendar can be on clocks.
-/

namespace Licensing

variable {α β : Type}

/-- Digits stand for a number that has no more digits than they are. -/
theorem Numeral.ofDigitChars_lt {run : List Char} (all : ∀ c ∈ run, c.isDigit = true) (n : Nat) :
    Nat.ofDigitChars 10 run n < (n + 1) * 10 ^ run.length := by
  induction run generalizing n with
  | nil => simp
  | cons c run ih =>
    obtain ⟨digit, all⟩ := List.forall_mem_cons.mp all
    have small := digitValue_lt digit
    have bound := ih all (10 * n + (c.toNat - '0'.toNat))
    rw [Nat.ofDigitChars_cons, List.length_cons]
    calc Nat.ofDigitChars 10 run (10 * n + (c.toNat - '0'.toNat))
        < (10 * n + (c.toNat - '0'.toNat) + 1) * 10 ^ run.length := bound
      _ ≤ (n + 1) * 10 * 10 ^ run.length := Nat.mul_le_mul_right _ (by omega)
      _ = (n + 1) * 10 ^ (run.length + 1) := by ring

/-! ### What readers give -/

namespace Reader

/-- All values of a reader have a property. -/
def Gives (reader : Reader α) (property : α → Prop) : Prop :=
  ∀ text value rest, reader text = some (value, rest) → property value

variable {reader : Reader α} {next : α → Reader β} {first : α → Prop} {last : β → Prop}

/-- What is read after a value has a property if it does so after each value that there can be. -/
theorem Gives.bind (h : reader.Gives first) (h' : ∀ value, first value → (next value).Gives last) :
    (reader >>= next).Gives last := by
  intro text value rest read
  change (reader text >>= fun p => next p.1 p.2) = _ at read
  obtain ⟨⟨middle, left⟩, began, ended⟩ := Option.bind_eq_some_iff.mp read
  exact h' middle (h text middle left began) left value rest ended

/-- What is read after whatever there is. -/
theorem gives_then (h : ∀ value, (next value).Gives last) : (reader >>= next).Gives last := by
  have anything : reader.Gives fun _ => True := fun _ _ _ _ => trivial
  exact anything.bind fun value _ => h value

theorem gives_pure {value : β} (h : last value) : (pure value : Reader β).Gives last := by
  intro text other rest read
  cases read
  exact h

theorem gives_failure : (failure : Reader β).Gives last :=
  fun _ _ _ read => nomatch read

/-- Digits are given, and no more of them than the limit allows. -/
theorem gives_digits (limit : Nat) :
    (digits (some limit)).Gives fun run => (∀ c ∈ run, c.isDigit = true) ∧ run.length ≤ limit := by
  intro text run rest read
  cases read
  exact ⟨List.all_eq_true.mp List.all_takeWhile,
    (List.takeWhile_sublist _).length_le.trans (List.length_take_le ..)⟩

end Reader

namespace Time

open Reader

/-- Less than a second is left out, and the zone is a number of minutes. -/
structure Stamp.IsWhole (s : Stamp) : Prop where
  nanos_lt : s.nanos < 1000000000
  minutes : s.offset % 60 = 0

/-- Digits after the point make less than a second. -/
theorem gives_readFraction : readFraction.Gives (· < 1000000000) := by
  refine gives_then fun text => ?_
  split
  · refine gives_then fun _ => (gives_digits 9).bind fun run ⟨all, short⟩ => ?_
    have fraction : Nat.ofDigitChars 10 run 0 * Nat.pow 10 (9 - run.length) < 1000000000 :=
      calc Nat.ofDigitChars 10 run 0 * 10 ^ (9 - run.length)
          < 10 ^ run.length * 10 ^ (9 - run.length) :=
            Nat.mul_lt_mul_of_pos_right (by simpa using Numeral.ofDigitChars_lt all 0)
              (Nat.pow_pos (by decide))
        _ = 10 ^ 9 := by rw [← pow_add, Nat.add_sub_cancel' short]
    split_ifs
    · exact gives_failure.bind fun _ (impossible : False) => impossible.elim
    · exact gives_then fun _ => gives_pure fraction
  · exact gives_pure (by decide)

/-- Zones differ by whole minutes. -/
theorem gives_readOffset (separator : Reader Unit) : (readOffset separator).Gives (· % 60 = 0) := by
  have distance (negative : Bool) : Reader.Gives (do
      let hours ← number 2 (some 2)
      separator
      let minutes ← number 2 (some 2)
      if 60 ≤ minutes then failure
      let seconds : Int := hours * 3600 + minutes * 60
      return if negative then -seconds else seconds) (· % 60 = 0) := by
    refine gives_then fun hours => gives_then fun _ => gives_then fun minutes => ?_
    have whole : Reader.Gives (pure (if negative then -((hours : Int) * 3600 + minutes * 60)
        else (hours : Int) * 3600 + minutes * 60)) (· % 60 = 0) := by
      apply gives_pure
      split_ifs <;> omega
    by_cases late : 60 ≤ minutes
    · rw [if_pos late]
      exact gives_failure.bind fun _ (impossible : False) => impossible.elim
    · rw [if_neg late]
      exact whole
  refine gives_then fun text => ?_
  split
  case h_4 => exact gives_then distance
  all_goals exact gives_then fun _ => gives_then distance

theorem gives_readZone (separator : Reader Unit) : (readZone separator).Gives (· % 60 = 0) := by
  refine gives_then fun text => ?_
  split
  case h_3 => exact gives_readOffset separator
  all_goals exact gives_then fun _ => gives_pure rfl

theorem gives_readRelaxedZone : readRelaxedZone.Gives (· % 60 = 0) := by
  refine gives_then fun text => ?_
  split
  · split_ifs
    · exact gives_then fun _ => gives_pure rfl
    · exact gives_readZone _
  · exact gives_readZone _

/-- What the strict form gives. -/
theorem gives_readStrict : readStrict.Gives Stamp.IsWhole := by
  -- the date, the time of day up to the second, and the marks between them
  iterate 11 refine gives_then fun _ => ?_
  exact gives_readFraction.bind fun _ nanos => (gives_readZone _).bind fun _ minutes =>
    gives_pure ⟨nanos, minutes⟩

/-- What the relaxed form gives. -/
theorem gives_readRelaxed : readRelaxed.Gives Stamp.IsWhole := by
  iterate 11 refine gives_then fun _ => ?_
  exact gives_readFraction.bind fun _ nanos => gives_then fun _ =>
    gives_readRelaxedZone.bind fun _ minutes => gives_then fun _ => gives_pure ⟨nanos, minutes⟩

end Time

/-- What a reader makes of a whole text has the property, too. -/
theorem Reader.Gives.all {reader : Reader α} {property : α → Prop} (h : reader.Gives property)
    {text : String} {value : α} (read : reader.all text = some value) : property value := by
  unfold Reader.all at read
  split at read
  · next found =>
    cases read
    exact h _ _ _ found
  · cases read

/-! ### Instants -/

namespace Instant

theorem check_eq_some_iff {t t' : Instant} : check t = some t' ↔ t.InCalendar ∧ t = t' := by
  simp [check]

/-- The instant that a text names is valid: a leap second is named as the sixtieth second of a
minute, and stays there in universal time. -/
theorem isValid_of_instant? {s : Time.Stamp} (whole : s.IsWhole) {t : Instant}
    (h : s.instant? = some t) : t.IsValid := by
  obtain ⟨short, minutes⟩ := whole
  unfold Time.Stamp.instant? at h
  by_cases real : s.IsValid
  · rw [if_neg (not_not.mpr real)] at h
    obtain ⟨shown, h₁, h⟩ := Option.bind_eq_some_iff.mp h
    obtain ⟨-, rfl⟩ := check_eq_some_iff.mp h₁
    obtain ⟨inCalendar, rfl⟩ := check_eq_some_iff.mp h
    -- a leap second is counted as the fifty-ninth second of its minute
    by_cases last : s.second = 60
    · refine ⟨inCalendar, ?_, fun _ => ?_⟩
      · simp only [last, if_true]
        omega
      · simp only [last, if_true]
        omega
    · refine ⟨inCalendar, ?_, fun leap => ?_⟩
      · simp only [last, if_false]
        omega
      · simp only [last, if_false] at leap
        omega
  · rw [if_pos real] at h
    cases h

/-- The time of a text in the strict form is valid. -/
theorem isValid_of_ofRfc3339? {text : String} {t : Instant} (h : ofRfc3339? text = some t) :
    t.IsValid := by
  obtain ⟨s, read, h⟩ := Option.bind_eq_some_iff.mp h
  exact isValid_of_instant? (Time.gives_readStrict.all read) h

/-- The time of a text in the relaxed form is valid. -/
theorem isValid_of_ofRelaxed? {text : String} {t : Instant} (h : ofRelaxed? text = some t) :
    t.IsValid := by
  obtain ⟨s, read, h⟩ := Option.bind_eq_some_iff.mp h
  exact isValid_of_instant? (Time.gives_readRelaxed.all read) h

/-- A clock that is set forward or back from a valid instant shows a valid one. -/
theorem IsValid.add? {t t' : Instant} (valid : t.IsValid) {nanos : Int}
    (h : t.add? nanos = some t') : t'.IsValid := by
  obtain ⟨-, short, leap⟩ := valid
  obtain ⟨inCalendar, rfl⟩ := check_eq_some_iff.mp h
  refine ⟨inCalendar, ?_, ?_⟩
  all_goals
    simp only [add, ofNanos]
    split_ifs <;> simp only <;> omega

/-- A clock that is set forward or back from an instant in range shows one in range. -/
theorem InRange.add? {t t' : Instant} (range : t.InRange) {nanos : Int}
    (h : t.add? nanos = some t') : t'.InRange := by
  obtain ⟨-, short⟩ := range
  obtain ⟨inCalendar, rfl⟩ := check_eq_some_iff.mp h
  refine ⟨inCalendar, ?_⟩
  simp only [add, ofNanos]
  split_ifs <;> simp only <;> omega

/-- The instants that a clock shows: it counts units of a second, or starts at a time that is read
in the strict form or that it is given as it is, and is set forward or back. -/
inductive OnClock (Given : Instant → Prop) : Instant → Prop
  | counted {units : Nat} (fine : 0 < units) {n : Int} (h : (ofUnits units n).InCalendar) :
      OnClock Given (ofUnits units n)
  | read {text : String} {t : Instant} (h : ofRfc3339? text = some t) : OnClock Given t
  | given {t : Instant} (h : Given t) : OnClock Given t
  | set {t t' : Instant} {nanos : Int} (shown : OnClock Given t) (h : t.add? nanos = some t') :
      OnClock Given t'

/-- Clocks that are given valid instants only show valid instants only. -/
theorem OnClock.isValid {t : Instant} (shown : t.OnClock IsValid) : t.IsValid := by
  induction shown with
  | counted fine h => exact isValid_ofUnits fine h
  | read h => exact isValid_of_ofRfc3339? h
  | given h => exact h
  | set _ h valid => exact valid.add? h

/-- All instants in range are shown by clocks that are given any of them, and no others are. -/
theorem onClock_inRange_iff {t : Instant} : t.OnClock InRange ↔ t.InRange := by
  refine ⟨fun shown => ?_, .given⟩
  induction shown with
  | counted fine h => exact (isValid_ofUnits fine h).inRange
  | read h => exact (isValid_of_ofRfc3339? h).inRange
  | given h => exact h
  | set _ h range => exact range.add? h

end Instant

end Licensing
