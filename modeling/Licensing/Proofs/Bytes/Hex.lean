import Licensing.Bytes.Hex
import Mathlib.Logic.Function.Basic

/-!
# Hexadecimal texts

## Main definitions

* `Hex.IsDigit` — the character is a lowercase hexadecimal digit.

## Main results

* `Hex.isDigit_of_mem_encode` — the text of a byte string consists of digits.
* `Hex.encode_injective` — byte strings with one text are equal.
-/

namespace Licensing.Hex

/-- The character is a lowercase hexadecimal digit. -/
def IsDigit (c : Char) : Prop :=
  '0' ≤ c ∧ c ≤ '9' ∨ 'a' ≤ c ∧ c ≤ 'f'

instance (c : Char) : Decidable (IsDigit c) :=
  inferInstanceAs (Decidable (_ ∨ _))

theorem toNat_lt_of_isDigit {c : Char} (h : IsDigit c) : c.toNat < 128 := by
  simp only [IsDigit, Char.le_def, UInt32.le_iff_toNat_le] at h
  rw [← Char.toNat_val]
  rcases h with ⟨-, h⟩ | ⟨-, h⟩
  · exact Nat.lt_of_le_of_lt h (by decide)
  · exact Nat.lt_of_le_of_lt h (by decide)

theorem isDigit_digit {n : Nat} (h : n < 16) : IsDigit (digit n) := by
  have all : ∀ m, m < 16 → IsDigit (digit m) := by decide
  exact all n h

theorem digit_inj {m n : Nat} (hm : m < 16) (hn : n < 16) (h : digit m = digit n) : m = n := by
  have all : ∀ m, m < 16 → ∀ n, n < 16 → digit m = digit n → m = n := by decide
  exact all m hm n hn h

theorem toList_encode (bytes : Bytes) : (encode bytes).toList = digits bytes :=
  String.toList_ofList

/-- The text of a byte string consists of digits. -/
theorem isDigit_of_mem_encode {bytes : Bytes} {c : Char} (h : c ∈ (encode bytes).toList) :
    IsDigit c := by
  rw [toList_encode, digits, List.mem_flatMap] at h
  obtain ⟨byte, -, mem⟩ := h
  have short := byte.toNat_lt
  simp only [List.mem_cons, List.not_mem_nil, or_false] at mem
  rcases mem with rfl | rfl
  · exact isDigit_digit (by omega)
  · exact isDigit_digit (by omega)

theorem digits_injective : Function.Injective digits := by
  intro bytes other h
  induction bytes generalizing other with
  | nil =>
    cases other with
    | nil => rfl
    | cons byte other => cases h
  | cons byte bytes ih =>
    cases other with
    | nil => cases h
    | cons first other =>
      have hb := byte.toNat_lt
      have hf := first.toNat_lt
      simp only [digits, List.flatMap_cons, List.cons_append, List.nil_append,
        List.cons.injEq] at h
      obtain ⟨high, low, rest⟩ := h
      have high := digit_inj (by omega) (by omega) high
      have low := digit_inj (by omega) (by omega) low
      have same : byte = first := UInt8.toNat_inj.mp (by omega)
      rw [same, ih rest]

/-- Byte strings with one text are equal. -/
theorem encode_injective : Function.Injective encode := fun _ _ h =>
  digits_injective (String.ofList_injective h)

end Licensing.Hex
