import Licensing.Text.Numeral
import Mathlib.Tactic.Common

/-!
# Which texts are numbers

A number is read from a run of digits after an optional sign, and from nothing else; leading zeros
and a sign that changes nothing are taken. Of the spellings of a number that is not negative,
exactly one has neither, and this is the one that is written.

## Main definitions

* `Numeral.Digits` — a run of digits and the number it stands for.
* `Numeral.Signed`, `Numeral.Unsigned` — digits after an optional `+` or `-`, or after an optional
  `+`.
* `Numeral.SameValue` — two spellings of one number.
* `Numeral.IsCanonical` — a spelling without a sign and without leading zeros.

## Main results

* `Numeral.int64?_eq_some_iff`, `Numeral.uint32?_eq_some_iff` — what is read as a number that fits
  a width.
* `Numeral.isCanonical_toDigits`, `Numeral.IsCanonical.eq_of_sameValue` — the digits of a number are
  its only canonical spelling.
-/

namespace Licensing.Numeral

/-- A run of ASCII digits, at least one, and the number it stands for. -/
structure Digits (digits : List Char) (n : Nat) : Prop where
  ne_nil : digits ≠ []
  isDigit : ∀ c ∈ digits, c.isDigit = true
  value : Nat.ofDigitChars 10 digits 0 = n

/-- A run of digits after an optional `+` or `-`, and the number it stands for. -/
inductive Signed : List Char → Int → Prop
  | plain {digits : List Char} {n : Nat} (h : Digits digits n) : Signed digits n
  | plus {digits : List Char} {n : Nat} (h : Digits digits n) : Signed ('+' :: digits) n
  | minus {digits : List Char} {n : Nat} (h : Digits digits n) : Signed ('-' :: digits) (-n)

/-- A run of digits after an optional `+`, and the number it stands for. -/
inductive Unsigned : List Char → Nat → Prop
  | plain {digits : List Char} {n : Nat} (h : Digits digits n) : Unsigned digits n
  | plus {digits : List Char} {n : Nat} (h : Digits digits n) : Unsigned ('+' :: digits) n

theorem nat?_eq_some_iff {digits : List Char} {n : Nat} :
    nat? digits = some n ↔ Digits digits n := by
  unfold nat?
  split
  · next run =>
    rw [Option.some.injEq]
    exact ⟨fun value => ⟨run.1, List.all_eq_true.mp run.2, value⟩, fun h => h.value⟩
  · next other =>
    simp only [reduceCtorEq, false_iff]
    exact fun h => other ⟨h.ne_nil, List.all_eq_true.mpr h.isDigit⟩

/-- A run of digits has no sign in front. -/
theorem not_digits_cons {sign : Char} (noDigit : sign.isDigit = false) {digits : List Char}
    {n : Nat} : ¬ Digits (sign :: digits) n := by
  intro h
  have digit := h.isDigit sign List.mem_cons_self
  rw [noDigit] at digit
  cases digit

theorem signed_plus_iff {digits : List Char} {k : Int} :
    Signed ('+' :: digits) k ↔ ∃ n : Nat, Digits digits n ∧ (n : Int) = k := by
  constructor
  · rintro (h | h)
    · exact absurd h (not_digits_cons rfl)
    · exact ⟨_, h, rfl⟩
  · rintro ⟨n, h, rfl⟩
    exact .plus h

theorem signed_minus_iff {digits : List Char} {k : Int} :
    Signed ('-' :: digits) k ↔ ∃ n : Nat, Digits digits n ∧ -(n : Int) = k := by
  constructor
  · intro h
    cases h with
    | plain h => exact absurd h (not_digits_cons rfl)
    | minus h => exact ⟨_, h, rfl⟩
  · rintro ⟨n, h, rfl⟩
    exact .minus h

theorem int?_eq_some_iff {text : List Char} {k : Int} : int? text = some k ↔ Signed text k := by
  unfold int?
  split
  · simp only [signed_plus_iff, Option.map_eq_some_iff, nat?_eq_some_iff, Int.ofNat_eq_natCast]
  · simp only [signed_minus_iff, Option.map_eq_some_iff, nat?_eq_some_iff, Int.ofNat_eq_natCast]
  · next digits plus minus =>
    simp only [Option.map_eq_some_iff, nat?_eq_some_iff, Int.ofNat_eq_natCast]
    constructor
    · rintro ⟨n, h, rfl⟩
      exact .plain h
    · intro h
      cases h with
      | plain h => exact ⟨_, h, rfl⟩
      | plus h => exact absurd rfl (plus _)
      | minus h => exact absurd rfl (minus _)

/-- A number of 64 bits is read from a run of digits after an optional sign. -/
theorem int64?_eq_some_iff {text : String} {n : Int64} :
    int64? text = some n ↔ Signed text.toList n.toInt := by
  rw [← int?_eq_some_iff]
  simp only [int64?, Option.bind_eq_bind, Option.bind_eq_some_iff, Option.ite_none_right_eq_some,
    Option.some.injEq]
  constructor
  · rintro ⟨k, read, ⟨low, high⟩, rfl⟩
    rw [read, Int64.toInt_ofInt_of_le low high]
  · intro read
    have low := n.le_toInt
    have high := n.toInt_lt
    exact ⟨_, read, ⟨by omega, by omega⟩, Int64.ofInt_toInt n⟩

/-- A number of 32 bits is read from a run of digits after an optional `+`. -/
theorem uint32?_eq_some_iff {text : String} {n : UInt32} :
    uint32? text = some n ↔ Unsigned text.toList n.toNat := by
  have fits (k : Nat) :
      (if k < 0x100000000 then some (UInt32.ofNat k) else none) = some n ↔ k = n.toNat := by
    rw [Option.ite_none_right_eq_some, Option.some.injEq]
    constructor
    · rintro ⟨bound, rfl⟩
      exact (UInt32.toNat_ofNat_of_lt' bound).symm
    · rintro rfl
      exact ⟨n.toNat_lt, UInt32.ofNat_toNat⟩
  have read {digits : List Char} :
      ((nat? digits).bind fun k => if k < 0x100000000 then some (UInt32.ofNat k) else none) =
        some n ↔ Digits digits n.toNat := by
    simp only [Option.bind_eq_some_iff, nat?_eq_some_iff, fits, exists_eq_right]
  unfold uint32?
  split
  · next rest signed =>
    rw [signed]
    refine read.trans ⟨.plus, ?_⟩
    rintro (h | h)
    · exact absurd h (not_digits_cons rfl)
    · exact h
  · next digits unsigned =>
    refine read.trans ⟨.plain, fun h => ?_⟩
    generalize text.toList = chars at h unsigned ⊢
    cases h with
    | plain h => exact h
    | plus h => exact absurd rfl (unsigned _)

/-! ### Spellings of one number -/

/-- A spelling is one of at most one number. -/
theorem Signed.unique {spelling : List Char} {m n : Int} (hm : Signed spelling m)
    (hn : Signed spelling n) : m = n := by
  rw [← int?_eq_some_iff] at hm hn
  exact Option.some.inj (hm.symm.trans hn)

theorem Unsigned.signed {spelling : List Char} {n : Nat} (h : Unsigned spelling n) :
    Signed spelling n := by
  cases h with
  | plain h => exact .plain h
  | plus h => exact .plus h

/-- Two spellings of one number. -/
def SameValue (a b : List Char) : Prop :=
  ∃ n, Signed a n ∧ Signed b n

namespace SameValue

variable {a b c : List Char}

theorem symm (h : SameValue a b) : SameValue b a :=
  h.imp fun _ => And.symm

theorem trans (hab : SameValue a b) (hbc : SameValue b c) : SameValue a c := by
  obtain ⟨n, ha, hb⟩ := hab
  obtain ⟨m, hb', hc⟩ := hbc
  obtain rfl := hb.unique hb'
  exact ⟨n, ha, hc⟩

end SameValue

/-! ### Canonical spellings -/

/-- A spelling of digits only, without a zero in front of another digit. -/
structure IsCanonical (spelling : List Char) : Prop where
  ne_nil : spelling ≠ []
  isDigit : ∀ c ∈ spelling, c.isDigit = true
  noZero : ∀ rest, spelling = '0' :: rest → rest = []

theorem digits_toDigits (n : Nat) : Digits (Nat.toDigits 10 n) n :=
  nat?_eq_some_iff.mp (nat?_toDigits n)

/-- The digits of a number start with a zero only if there is no other digit. -/
theorem eq_nil_of_toDigits_eq_cons {n : Nat} {rest : List Char}
    (written : Nat.toDigits 10 n = '0' :: rest) : rest = [] := by
  induction n using Nat.strongRecOn generalizing rest with
  | ind n ih =>
    rw [Nat.toDigits_eq_if (by decide)] at written
    split at written
    · exact (List.cons.inj written).2.symm
    · next large =>
      obtain ⟨c, tail, digits, -, -⟩ := toDigits_eq_cons (n / 10)
      rw [digits, List.cons_append, List.cons.injEq] at written
      obtain ⟨rfl, -⟩ := written
      have front : Nat.toDigits 10 (n / 10) = Nat.toDigits 10 0 := by
        rw [digits, ih (n / 10) (by omega) digits, Nat.toDigits_zero]
      have zero : n / 10 = 0 := (digits_toDigits (n / 10)).value.symm.trans
        (front ▸ (digits_toDigits 0).value)
      omega

theorem isCanonical_toDigits (n : Nat) : IsCanonical (Nat.toDigits 10 n) where
  ne_nil := (digits_toDigits n).ne_nil
  isDigit := (digits_toDigits n).isDigit
  noZero _ := eq_nil_of_toDigits_eq_cons

theorem digitValue_lt {c : Char} (digit : c.isDigit = true) : c.toNat - '0'.toNat < 10 := by
  have high := (Char.isDigit_iff_toNat.mp digit).2
  have nine : '9'.toNat = '0'.toNat + 9 := rfl
  omega

theorem toDigits_digitValue {c : Char} (digit : c.isDigit = true) :
    Nat.toDigits 10 (c.toNat - '0'.toNat) = [c] := by
  have low := (Char.isDigit_iff_toNat.mp digit).1
  have zero : '0'.toNat = 48 := rfl
  have small := digitValue_lt digit
  rw [Nat.toDigits_of_lt_base small, List.singleton_inj, ← Char.toNat_inj,
    Nat.toNat_digitChar_of_lt_ten small]
  omega

/-- Digits that are read after a number that is not zero are written behind it. -/
theorem toDigits_append_digits {n : Nat} (positive : 0 < n) {digits : List Char}
    (isDigit : ∀ c ∈ digits, c.isDigit = true) :
    Nat.toDigits 10 n ++ digits = Nat.toDigits 10 (Nat.ofDigitChars 10 digits n) := by
  induction digits generalizing n with
  | nil => rw [List.append_nil, Nat.ofDigitChars_nil]
  | cons c rest ih =>
    obtain ⟨digit, others⟩ := List.forall_mem_cons.mp isDigit
    have longer : 0 < 10 * n + (c.toNat - '0'.toNat) := by omega
    calc Nat.toDigits 10 n ++ c :: rest
        = Nat.toDigits 10 n ++ Nat.toDigits 10 (c.toNat - '0'.toNat) ++ rest := by
          rw [toDigits_digitValue digit, List.append_assoc, List.singleton_append]
      _ = Nat.toDigits 10 (10 * n + (c.toNat - '0'.toNat)) ++ rest := by
          rw [Nat.toDigits_append_toDigits (by decide) positive (digitValue_lt digit)]
      _ = Nat.toDigits 10 (Nat.ofDigitChars 10 (c :: rest) n) := by
          rw [ih longer others, Nat.ofDigitChars_cons]

namespace IsCanonical

/-- A canonical spelling is the one that is written of its value. -/
theorem toDigits_value {spelling : List Char} (h : IsCanonical spelling) :
    Nat.toDigits 10 (Nat.ofDigitChars 10 spelling 0) = spelling := by
  cases spelling with
  | nil => exact absurd rfl h.ne_nil
  | cons c rest =>
    obtain ⟨digit, others⟩ := List.forall_mem_cons.mp h.isDigit
    have written := toDigits_digitValue digit
    rw [Nat.ofDigitChars_cons, Nat.mul_zero, Nat.zero_add]
    rcases Nat.eq_zero_or_pos (c.toNat - '0'.toNat) with zero | positive
    · rw [zero, Nat.toDigits_zero, List.cons.injEq] at written
      obtain rfl := written.1
      rw [h.noZero rest rfl, Nat.ofDigitChars_nil, zero, Nat.toDigits_zero]
    · rw [← toDigits_append_digits positive others, written, List.singleton_append]

/-- A canonical spelling is one of a number that is not negative, and is written of it. -/
theorem eq_toDigits {spelling : List Char} {k : Int} (h : IsCanonical spelling)
    (signed : Signed spelling k) : spelling = Nat.toDigits 10 k.toNat := by
  cases signed with
  | plain digits =>
    rw [Int.toNat_natCast, ← digits.value, h.toDigits_value]
  | plus | minus => exact absurd (h.isDigit _ List.mem_cons_self) (by decide)

theorem eq_of_sameValue {a b : List Char} (ha : IsCanonical a) (hb : IsCanonical b)
    (same : SameValue a b) : a = b := by
  obtain ⟨k, signed, signed'⟩ := same
  rw [ha.eq_toDigits signed, hb.eq_toDigits signed']

end IsCanonical

/-- A number is written in a spelling of it. -/
theorem signed_ofInt (k : Int) : Signed (ofInt k).toList k :=
  int?_eq_some_iff.mp (int?_ofInt k)

theorem signed_ofNat (n : Nat) : Signed (ofNat n).toList n := by
  rw [ofNat, String.toList_ofList]
  exact .plain (digits_toDigits n)

theorem isCanonical_ofNat (n : Nat) : IsCanonical (ofNat n).toList := by
  rw [ofNat, String.toList_ofList]
  exact isCanonical_toDigits n

/-- A number that is not negative is written canonically. -/
theorem isCanonical_ofInt {k : Int} (nonneg : 0 ≤ k) : IsCanonical (ofInt k).toList := by
  rw [ofInt, if_neg (by omega)]
  exact isCanonical_ofNat _

end Licensing.Numeral
