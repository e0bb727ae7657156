/-!
# Decimal numerals

Numbers written with ASCII digits. Reading takes leading zeros and, where a sign is allowed, one `+`
or `-`; writing uses neither a `+` nor leading zeros.

## Main definitions

* `Numeral.nat?` — the number of a run of digits.
* `Numeral.int64?`, `Numeral.uint32?` — numbers that fit a width, with an optional sign.
* `Numeral.padded` — a number with zeros in front, up to a width.

## Main results

* `Numeral.int64?_ofInt`, `Numeral.uint32?_ofNat` — a written number reads back as the number.
-/

namespace Licensing.Numeral

/-- The number of a run of ASCII digits, at least one. -/
def nat? (digits : List Char) : Option Nat :=
  if digits ≠ [] ∧ digits.all Char.isDigit then some (Nat.ofDigitChars 10 digits 0) else none

/-- The number of a run of digits after an optional sign. -/
def int? : List Char → Option Int
  | '+' :: rest => (nat? rest).map Int.ofNat
  | '-' :: rest => (nat? rest).map fun n => -Int.ofNat n
  | digits => (nat? digits).map Int.ofNat

/-- The number of a run of digits after an optional sign, if it fits 64 bits with a sign. -/
def int64? (text : String) : Option Int64 := do
  let n ← int? text.toList
  if -0x8000000000000000 ≤ n ∧ n < 0x8000000000000000 then some (Int64.ofInt n) else none

/-- The number of a run of digits after an optional `+`, if it fits 32 bits. -/
def uint32? (text : String) : Option UInt32 := do
  let n ←
    match text.toList with
    | '+' :: rest => nat? rest
    | digits => nat? digits
  if n < 0x100000000 then some (UInt32.ofNat n) else none

/-- The digits of a number. -/
def ofNat (n : Nat) : String :=
  String.ofList (Nat.toDigits 10 n)

/-- The digits of a number, after a `-` if it is negative. -/
def ofInt (n : Int) : String :=
  if n < 0 then "-" ++ ofNat n.natAbs else ofNat n.natAbs

/-- The digits of a number, with zeros in front up to a width. -/
def padded (width n : Nat) : String :=
  let digits := Nat.toDigits 10 n
  String.ofList (List.replicate (width - digits.length) '0' ++ digits)

/-- The digits of a number read back as the number. -/
@[simp] theorem nat?_toDigits (n : Nat) : nat? (Nat.toDigits 10 n) = some n := by
  have digits : (Nat.toDigits 10 n).all Char.isDigit := by
    simpa using fun c hc => Nat.isDigit_of_mem_toDigits (by decide) (by decide) hc
  simp [nat?, digits, Nat.toDigits_ne_nil, Nat.ofDigitChars_toDigits]

/-- A number is written without a sign in front of its first digit. -/
theorem toDigits_eq_cons (n : Nat) :
    ∃ c rest, Nat.toDigits 10 n = c :: rest ∧ c ≠ '+' ∧ c ≠ '-' := by
  cases digits : Nat.toDigits 10 n with
  | nil => exact absurd digits Nat.toDigits_ne_nil
  | cons c rest =>
    have digit : c.isDigit :=
      Nat.isDigit_of_mem_toDigits (n := n) (b := 10) (by decide) (by decide) (by simp [digits])
    refine ⟨c, rest, rfl, ?_, ?_⟩ <;> rintro rfl <;> exact absurd digit (by decide)

/-- A number with its sign reads back as the number. -/
@[simp] theorem int?_ofInt (n : Int) : int? (ofInt n).toList = some n := by
  unfold ofInt ofNat
  split
  · next negative =>
    have written : ("-" ++ String.ofList (Nat.toDigits 10 n.natAbs)).toList =
        '-' :: Nat.toDigits 10 n.natAbs := by simp
    simp only [written, int?, nat?_toDigits, Option.map_some, Int.ofNat_eq_natCast]
    exact congrArg some (by omega)
  · next positive =>
    obtain ⟨c, rest, digits, plus, minus⟩ := toDigits_eq_cons n.natAbs
    have read := nat?_toDigits n.natAbs
    rw [digits] at read
    have unsigned : int? (c :: rest) = (nat? (c :: rest)).map Int.ofNat := by
      simp [int?, plus, minus]
    rw [digits, String.toList_ofList, unsigned, read, Option.map_some]
    exact congrArg some (by simp only [Int.ofNat_eq_natCast]; omega)

/-- A number of 64 bits with a sign reads back as the number. -/
@[simp] theorem int64?_ofInt (n : Int64) : int64? (ofInt n.toInt) = some n := by
  have low := n.le_toInt
  have high := n.toInt_lt
  simp only [int64?, int?_ofInt, Option.bind_eq_bind, Option.bind_some]
  rw [if_pos (by omega), Int64.ofInt_toInt]

/-- A number of 32 bits reads back as the number. -/
@[simp] theorem uint32?_ofNat (n : UInt32) : uint32? (ofNat n.toNat) = some n := by
  obtain ⟨c, rest, digits, plus, -⟩ := toDigits_eq_cons n.toNat
  have read := nat?_toDigits n.toNat
  have bound := n.toNat_lt
  rw [digits] at read
  simp [uint32?, ofNat, digits, plus, read, bound]

end Licensing.Numeral
