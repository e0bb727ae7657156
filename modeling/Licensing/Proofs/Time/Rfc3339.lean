import Licensing.Proofs.Time.Calendar
import Licensing.Time.Rfc3339

/-!
# Timestamps are read back

The relaxed reading of the text of an instant finds the instant again, unless the instant lies in a
leap second within a minute: what is written of it is an instant of the second after. Each reader is
followed on what was written for it and anything after that.

## Main definitions

* `Instant.InRange` — an instant that a clock can show.
* `Instant.IsValid` — an instant in whose minute a leap second is the last one.
* `Instant.stamp` — the date and the time of day of an instant.
* `Instant.asWritten` — the instant whose date and time of day are written of an instant.

## Main results

* `Numeral.ofDigitChars_padded`, `Numeral.length_padded` — numbers with zeros in front.
* `Reader.number_append` — a run of digits is read as its number.
* `Instant.isValid_ofUnits` — counted milliseconds and microseconds are valid.
* `Instant.readRelaxed_toRfc3339` — what the relaxed form takes from the text of an instant.
* `Instant.asWritten_eq_iff`, `Instant.toMillis_asWritten` — which instants are written as they are,
  and that all are written to the same millisecond.
* `Instant.ofRelaxed?_toRfc3339` — the text of an instant reads back as the instant that it is
  written as.
-/

namespace Licensing

/-! ### Numbers with zeros in front -/

namespace Numeral

theorem toList_padded (width n : Nat) :
    (padded width n).toList =
      List.replicate (width - (Nat.toDigits 10 n).length) '0' ++ Nat.toDigits 10 n := by
  rw [padded, String.toList_ofList]

/-- A number that fits the width has exactly that many digits. -/
theorem length_padded {width n : Nat} (wide : 0 < width) (fits : n < 10 ^ width) :
    (padded width n).toList.length = width := by
  have short := (Nat.length_toDigits_le_iff (by decide) wide).mpr fits
  rw [toList_padded, List.length_append, List.length_replicate]
  omega

theorem isDigit_of_mem_padded {width n : Nat} {c : Char} (h : c ∈ (padded width n).toList) :
    c.isDigit = true := by
  rw [toList_padded, List.mem_append] at h
  rcases h with zero | digit
  · rw [List.eq_of_mem_replicate zero]
    rfl
  · exact Nat.isDigit_of_mem_toDigits (by decide) (by decide) digit

theorem ofDigitChars_padded (width n : Nat) :
    Nat.ofDigitChars 10 (padded width n).toList 0 = n := by
  rw [toList_padded, Nat.ofDigitChars_append, Nat.ofDigitChars_replicate_zero, Nat.mul_zero,
    Nat.ofDigitChars_ten_toDigits]

end Numeral

/-! ### Readers -/

namespace Reader

variable {α β : Type}

theorem bind_eq {x : Reader α} {f : α → Reader β} {text rest : List Char} {a : α}
    (h : x text = some (a, rest)) : (x >>= f) text = f a rest := by
  change (x text >>= fun p => f p.1 p.2) = _
  rw [h]
  rfl

theorem get_bind (f : List Char → Reader α) (text : List Char) :
    (get >>= f) text = f text text := rfl

/-- White space is skipped up to a character that is none. -/
theorem skipSpace_cons {c : Char} (h : Text.isSpace c = false) (rest : List Char) :
    skipSpace (c :: rest) = some ((), c :: rest) := by
  simp [skipSpace, skipWhile, h]

theorem char_cons (c : Char) (rest : List Char) : char c (c :: rest) = some ((), rest) := by
  simp [char]

/-- A run of digits reaches the limit, or no digit follows it. -/
def Stops (limit : Option Nat) (run rest : List Char) : Prop :=
  limit = some run.length ∨
    (∀ n, limit = some n → run.length ≤ n) ∧ ∀ c, rest.head? = some c → c.isDigit = false

theorem takeWhile_append_of_head? {p : α → Bool} {run rest : List α} (all : ∀ a ∈ run, p a = true)
    (ends : ∀ a, rest.head? = some a → p a = false) : (run ++ rest).takeWhile p = run := by
  rw [List.takeWhile_append_of_pos all]
  cases rest with
  | nil => simp
  | cons a rest => simp [ends a rfl]

/-- A run of digits is taken up to a character that is none, or up to the limit. -/
theorem digits_append {limit : Option Nat} {run rest : List Char}
    (all : ∀ c ∈ run, c.isDigit = true) (stops : Stops limit run rest) :
    digits limit (run ++ rest) = some (run, rest) := by
  have taken :
      ((limit.map (run ++ rest).take).getD (run ++ rest)).takeWhile Char.isDigit = run := by
    rcases stops with rfl | ⟨within, ends⟩
    · have whole : (run ++ []).takeWhile Char.isDigit = run :=
        takeWhile_append_of_head? all (by simp)
      simpa using whole
    · cases limit with
      | none => exact takeWhile_append_of_head? all ends
      | some n =>
        have long := within n rfl
        rw [Option.map_some, Option.getD_some, List.take_append, List.take_of_length_le long]
        refine takeWhile_append_of_head? all fun c head => ends c ?_
        cases rest with
        | nil => simp at head
        | cons d rest =>
          cases h : n - run.length with
          | zero => simp [h] at head
          | succ m => simpa [h] using head
  simp only [digits, taken, List.drop_left]

/-- A run of digits is read as its number. -/
theorem number_append {least : Nat} {limit : Option Nat} {run rest : List Char}
    (all : ∀ c ∈ run, c.isDigit = true) (enough : least ≤ run.length)
    (stops : Stops limit run rest) :
    number least limit (run ++ rest) = some (Nat.ofDigitChars 10 run 0, rest) := by
  rw [number, bind_eq (digits_append all stops), if_neg (by omega)]
  rfl

theorem isSpace_of_isDigit {c : Char} (h : c.isDigit = true) : Text.isSpace c = false := by
  have bounds : 48 ≤ c.toNat ∧ c.toNat ≤ 57 := by
    simpa [Char.isDigit, UInt32.le_iff_toNat_le] using h
  simp only [Text.isSpace, Text.spaces, List.any_cons, List.any_nil, Bool.or_false,
    Bool.or_eq_false_iff, Bool.and_eq_false_iff, decide_eq_false_iff_not]
  omega

end Reader

namespace Time

open Reader

theorem readMark_cons {c : Char} (h : Text.isSpace c = false) (rest : List Char) :
    readMark c (c :: rest) = some ((), rest) := by
  rw [readMark, bind_eq (skipSpace_cons h rest), char_cons]

/-- A run of digits is read as its number after white space, of which there is none. -/
theorem skipSpace_append {run : List Char} (all : ∀ c ∈ run, c.isDigit = true) (some : run ≠ [])
    (rest : List Char) : skipSpace (run ++ rest) = .some ((), run ++ rest) := by
  obtain ⟨c, others, rfl⟩ := List.exists_cons_of_ne_nil some
  exact skipSpace_cons (isSpace_of_isDigit (all c List.mem_cons_self)) _

theorem padded_ne_nil (width n : Nat) : (Numeral.padded width n).toList ≠ [] := by
  rw [Numeral.toList_padded]
  exact List.append_ne_nil_of_right_ne_nil _ Nat.toDigits_ne_nil

/-- A number with zeros in front is read back up to a limit that it reaches. -/
theorem number_padded {least width n : Nat} (enough : least ≤ width) (wide : 0 < width)
    (fits : n < 10 ^ width) (rest : List Char) :
    number least (some width) ((Numeral.padded width n).toList ++ rest) = some (n, rest) := by
  have length := Numeral.length_padded wide fits
  have read : number least (some width) ((Numeral.padded width n).toList ++ rest) =
      some (Nat.ofDigitChars 10 (Numeral.padded width n).toList 0, rest) :=
    number_append (fun c hc => Numeral.isDigit_of_mem_padded hc) (by omega) (.inl (by rw [length]))
  rwa [Numeral.ofDigitChars_padded] at read

theorem readPart_append {n : Nat} (h : n < 100) (rest : List Char) :
    readPart ((Numeral.padded 2 n).toList ++ rest) = some (n, rest) := by
  have skipped := skipSpace_append (fun c hc => Numeral.isDigit_of_mem_padded hc)
    (padded_ne_nil 2 n) rest
  rw [readPart, bind_eq skipped, number_padded (by decide) (by decide) h]

theorem readYear_digits {run rest : List Char} (all : ∀ c ∈ run, c.isDigit = true)
    (some : run ≠ []) :
    readYear (run ++ rest) =
      (number 1 (.some 4) >>= fun n => pure (n : Int)) (run ++ rest) := by
  obtain ⟨c, others, rfl⟩ := List.exists_cons_of_ne_nil some
  have digit : c.isDigit = true := all c List.mem_cons_self
  have minus : c ≠ '-' := by
    rintro rfl
    cases digit
  have plus : c ≠ '+' := by
    rintro rfl
    cases digit
  rw [readYear, bind_eq (skipSpace_append all some rest), List.cons_append]
  have head {d : Char} {later : List Char} (h : c :: (others ++ rest) = d :: later) : c = d :=
    (List.cons.inj h).1
  generalize c :: (others ++ rest) = text at *
  rw [get_bind]
  split
  · exact absurd (head rfl) minus
  · exact absurd (head rfl) plus
  · rfl

theorem readYear_minus (rest : List Char) :
    readYear ('-' :: rest) = (number 1 none >>= fun n => pure (-(n : Int))) rest := by
  rw [readYear, bind_eq (skipSpace_cons (by decide) rest), get_bind]
  rfl

theorem readYear_plus (rest : List Char) :
    readYear ('+' :: rest) = (number 1 none >>= fun n => pure (n : Int)) rest := by
  rw [readYear, bind_eq (skipSpace_cons (by decide) rest), get_bind]
  rfl

theorem readYear_append (y : Int) (rest : List Char) :
    readYear ((year y).toList ++ '-' :: rest) = some (y, '-' :: rest) := by
  have signed : number 1 none ((Numeral.padded 4 y.natAbs).toList ++ '-' :: rest) =
      some (y.natAbs, '-' :: rest) := by
    have stops : Stops none (Numeral.padded 4 y.natAbs).toList ('-' :: rest) :=
      .inr ⟨by simp, by rintro c ⟨⟩; rfl⟩
    rw [number_append (fun c hc => Numeral.isDigit_of_mem_padded hc)
      (List.length_pos_iff.mpr (padded_ne_nil _ _)) stops, Numeral.ofDigitChars_padded]
  unfold year
  split_ifs with plain negative
  · rw [readYear_digits (fun c hc => Numeral.isDigit_of_mem_padded hc) (padded_ne_nil _ _),
      bind_eq (number_padded (by decide) (by decide) (by omega) _)]
    have nonneg : (y.toNat : Int) = y := by omega
    rw [nonneg]
    rfl
  · have sign : "-".toList = ['-'] := by simp
    rw [String.toList_append, sign, List.append_assoc, List.singleton_append]
    rw [readYear_minus, bind_eq signed]
    have opposite : -(y.natAbs : Int) = y := by omega
    rw [opposite]
    rfl
  · have sign : "+".toList = ['+'] := by simp
    rw [String.toList_append, sign, List.append_assoc, List.singleton_append]
    rw [readYear_plus, bind_eq signed]
    have same : (y.natAbs : Int) = y := by omega
    rw [same]
    rfl

/-- A point and some digits are read as nanoseconds. -/
theorem readFraction_digits {width n : Nat} (wide : 0 < width) (short : width ≤ 9)
    (fits : n < 10 ^ width) (rest : List Char) :
    readFraction (("." ++ Numeral.padded width n).toList ++ 'Z' :: rest) =
      some (n * 10 ^ (9 - width), 'Z' :: rest) := by
  have point : ".".toList = ['.'] := by simp
  have length := Numeral.length_padded wide fits
  have stops : Stops (some 9) (Numeral.padded width n).toList ('Z' :: rest) :=
    .inr ⟨by rintro _ ⟨⟩; omega, by rintro c ⟨⟩; rfl⟩
  have skipped : skipWhile Char.isDigit ('Z' :: rest) = some ((), 'Z' :: rest) := by
    simp [skipWhile]
  rw [String.toList_append, point, List.append_assoc, List.singleton_append, readFraction, get_bind]
  change (char '.' >>= _ : Reader Nat) _ = _
  rw [bind_eq (char_cons _ _),
    bind_eq (digits_append (fun c hc => Numeral.isDigit_of_mem_padded hc) stops),
    if_neg (by omega), length]
  change (skipWhile Char.isDigit >>= _ : Reader Nat) _ = _
  rw [bind_eq skipped, Numeral.ofDigitChars_padded]
  rfl

theorem readFraction_append {n : Nat} (h : n < 1000000000) (rest : List Char) :
    readFraction ((fraction n).toList ++ 'Z' :: rest) = some (n, 'Z' :: rest) := by
  unfold fraction
  split_ifs with whole millis micros
  · subst whole
    rfl
  · rw [readFraction_digits (by decide) (by decide) (by omega)]
    exact congrArg (fun n => some (n, 'Z' :: rest)) (by omega)
  · rw [readFraction_digits (by decide) (by decide) (by omega)]
    exact congrArg (fun n => some (n, 'Z' :: rest)) (by omega)
  · rw [readFraction_digits (by decide) (by decide) (by omega)]
    exact congrArg (fun n => some (n, 'Z' :: rest)) (by omega)

end Time

namespace Instant

/-- An instant that a clock can show: its day has a date, and less than two seconds have passed
since the second in which it is counted began. -/
structure InRange (t : Instant) : Prop where
  inCalendar : t.InCalendar
  nanos_lt : t.nanos < 2000000000

/-- An instant in whose minute a leap second is the last one. What would be an instant of a leap
second within a minute has the text of an instant of the next second. -/
structure IsValid (t : Instant) : Prop where
  inCalendar : t.InCalendar
  nanos_lt : t.nanos < 2000000000
  leap : 1000000000 ≤ t.nanos → t.seconds % 60 = 59

theorem IsValid.inRange {t : Instant} (h : t.IsValid) : t.InRange :=
  ⟨h.inCalendar, h.nanos_lt⟩

/-- The instant whose date and time of day are written of an instant: in the place of a leap second
within a minute it is in the second after. -/
def asWritten (t : Instant) : Instant :=
  if 1000000000 ≤ t.nanos ∧ t.seconds % 60 ≠ 59 then ⟨t.seconds + 1, t.nanos - 1000000000⟩ else t

/-- The second after one within a minute is on the same day. -/
theorem day_next {t : Instant} (within : t.seconds % 60 ≠ 59) (nanos : Nat) :
    day ⟨t.seconds + 1, nanos⟩ = t.day := by
  simp only [day]
  omega

/-- What is written of an instant is valid. -/
theorem InRange.isValid_asWritten {t : Instant} (h : t.InRange) : t.asWritten.IsValid := by
  obtain ⟨⟨first, last⟩, short⟩ := h
  unfold asWritten
  split
  · next strange =>
    have day := day_next strange.2 (t.nanos - 1000000000)
    refine ⟨⟨day ▸ first, day ▸ last⟩, ?_, ?_⟩ <;> simp only <;> omega
  · next usual => exact ⟨⟨first, last⟩, short, by tauto⟩

/-- The instants that are written as they are. -/
theorem InRange.asWritten_eq_iff {t : Instant} (h : t.InRange) : t.asWritten = t ↔ t.IsValid := by
  constructor
  · intro same
    exact same ▸ h.isValid_asWritten
  · intro valid
    exact if_neg fun strange => strange.2 (valid.leap strange.1)

/-- An instant is written to the same millisecond. -/
theorem toMillis_asWritten (t : Instant) : t.asWritten.toMillis = t.toMillis := by
  unfold asWritten
  split
  · simp only [toMillis]
    omega
  · rfl

/-- Instants that are counted in units of a second fall into no leap second. -/
theorem isValid_ofUnits {units : Nat} (fine : 0 < units) {n : Int}
    (h : (ofUnits units n).InCalendar) : (ofUnits units n).IsValid := by
  have short : (n % units).toNat * (1000000000 / units) < 1000000000 := by
    have below : (n % units).toNat < units := by
      have := Int.emod_lt_of_pos n (Int.natCast_pos.mpr fine)
      omega
    rcases Nat.eq_zero_or_pos (1000000000 / units) with none | some
    · rw [none, Nat.mul_zero]
      decide
    · exact Nat.lt_of_lt_of_le (Nat.mul_lt_mul_of_pos_right below some) (Nat.mul_div_le _ _)
  have nanos : (ofUnits units n).nanos < 1000000000 := short
  exact ⟨h, by omega, by omega⟩

/-- The date and the time of day of an instant. -/
def stamp (t : Instant) : Time.Stamp :=
  ⟨Date.ofDays t.day, t.secondOfDay / 3600, t.secondOfDay / 60 % 60,
    t.secondOfDay % 60 + t.nanos / 1000000000, t.nanos % 1000000000, 0⟩

theorem toList_toRfc3339 (t : Instant) :
    t.toRfc3339.toList =
      (Time.year t.stamp.date.year).toList ++
        '-' :: ((Numeral.padded 2 t.stamp.date.month).toList ++
          '-' :: ((Numeral.padded 2 t.stamp.date.day).toList ++
            'T' :: ((Numeral.padded 2 t.stamp.hour).toList ++
              ':' :: ((Numeral.padded 2 t.stamp.minute).toList ++
                ':' :: ((Numeral.padded 2 t.stamp.second).toList ++
                  ((Time.fraction t.stamp.nanos).toList ++ ['Z'])))))) := by
  simp [toRfc3339, stamp]

/-- An instant and what is written of it have the same date and time of day. -/
theorem stamp_asWritten (t : Instant) : t.asWritten.stamp = t.stamp := by
  unfold asWritten
  split
  · next strange =>
    rw [stamp, day_next strange.2, stamp]
    simp only [secondOfDay, Time.Stamp.mk.injEq, true_and, and_true]
    omega
  · rfl

/-- The text of an instant is that of the instant that it is written as. -/
theorem toRfc3339_asWritten (t : Instant) : t.asWritten.toRfc3339 = t.toRfc3339 := by
  apply String.toList_injective
  rw [toList_toRfc3339, toList_toRfc3339, stamp_asWritten]

open Time Reader in
/-- The relaxed form takes the whole text of an instant. -/
theorem readRelaxed_toRfc3339 {t : Instant} (h : t.nanos < 2000000000) :
    readRelaxed t.toRfc3339.toList = some (t.stamp, []) := by
  obtain ⟨-, month, -, day⟩ := Date.isValid_ofDays t.day
  have length : Date.daysIn (Date.ofDays t.day).year (Date.ofDays t.day).month ≤ 31 := by
    unfold Date.daysIn
    split_ifs <;> omega
  have seconds : t.secondOfDay < 86400 := by
    unfold secondOfDay
    omega
  have separator (rest : List Char) :
      oneOf ['T', 't', ' '] ('T' :: rest) = some ((), rest) := by
    simp [oneOf]
  have month : t.stamp.date.month < 100 := by simp only [stamp]; omega
  have day : t.stamp.date.day < 100 := by simp only [stamp]; omega
  have hour : t.stamp.hour < 100 := by simp only [stamp]; omega
  have minute : t.stamp.minute < 100 := by simp only [stamp]; omega
  have second : t.stamp.second < 100 := by simp only [stamp]; omega
  have nanos : t.stamp.nanos < 1000000000 := by simp only [stamp]; omega
  rw [toList_toRfc3339, readRelaxed, bind_eq (readYear_append _ _),
    bind_eq (readMark_cons (by decide) _), bind_eq (readPart_append month _),
    bind_eq (readMark_cons (by decide) _), bind_eq (readPart_append day _),
    bind_eq (separator _), bind_eq (readPart_append hour _),
    bind_eq (readMark_cons (by decide) _), bind_eq (readPart_append minute _),
    bind_eq (readMark_cons (by decide) _), bind_eq (readPart_append second _),
    bind_eq (readFraction_append nanos _), bind_eq (skipSpace_cons (by decide) _)]
  rfl

/-- The date and the time of day of a valid instant are those of no other one. -/
theorem instant?_stamp {t : Instant} (h : t.IsValid) : t.stamp.instant? = some t := by
  have seconds : t.day * 86400 + t.secondOfDay = t.seconds ∧ t.secondOfDay < 86400 ∧
      t.secondOfDay % 60 = t.seconds % 60 := by
    unfold secondOfDay day
    omega
  have short := h.nanos_lt
  have valid : t.stamp.IsValid := by
    refine ⟨Date.isValid_ofDays t.day, ?_, ?_, ?_, Nat.zero_lt_succ _⟩
    all_goals simp only [stamp]; omega
  have days : t.stamp.date.toDays = t.day := Date.toDays_ofDays t.day
  have leap : (t.stamp.second = 60) ↔ 1000000000 ≤ t.nanos := by
    have := h.leap
    simp only [stamp]
    omega
  have whole : t.stamp.date.toDays * 86400 + t.stamp.hour * 3600 + t.stamp.minute * 60 +
      (if t.stamp.second = 60 then 59 else (t.stamp.second : Int)) = t.seconds := by
    rw [days]
    split_ifs with sixty
    all_goals
      simp only [stamp] at leap sixty ⊢
      omega
  have nanos : t.stamp.nanos + (if t.stamp.second = 60 then 1000000000 else 0) = t.nanos := by
    split_ifs with sixty
    all_goals
      simp only [stamp] at leap sixty ⊢
      omega
  have checked : check t = some t := if_pos h.inCalendar
  have offset : t.stamp.offset = 0 := rfl
  rw [Time.Stamp.instant?, if_neg (not_not_intro valid)]
  simp [whole, nanos, offset, checked]

/-- The text of an instant reads back as the instant that it is written as. -/
theorem ofRelaxed?_toRfc3339 {t : Instant} (h : t.InRange) :
    ofRelaxed? t.toRfc3339 = some t.asWritten := by
  rw [ofRelaxed?, Reader.all, readRelaxed_toRfc3339 h.nanos_lt]
  change t.stamp.instant? = _
  rw [← stamp_asWritten]
  exact instant?_stamp h.isValid_asWritten

end Instant

end Licensing
