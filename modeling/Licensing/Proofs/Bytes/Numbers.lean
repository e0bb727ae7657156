import Licensing.Bytes
import Mathlib.Data.List.Induction
import Mathlib.Tactic.Ring

/-!
# Numbers in byte strings are read back

## Main results

* `Bytes.ofBigEndian_bigEndian`, `Bytes.bigEndian_ofBigEndian` — numbers with the most significant
  byte first, from number to bytes and back.
* `Bytes.bigEndian_append_inj` — such a number is cut off a byte string in one way only.
* `Bytes.ofLittleEndian_littleEndian`, `Bytes.littleEndian_inj` — numbers with the least significant
  byte first, from number to bytes and back, and that different ones have different bytes.
-/

namespace Licensing.Bytes

@[simp] theorem ofBigEndian_nil : ofBigEndian [] = 0 := rfl

theorem ofBigEndian_concat (digits : Bytes) (digit : UInt8) :
    ofBigEndian (digits ++ [digit]) = 256 * ofBigEndian digits + digit.toNat := by
  simp [ofBigEndian]

/-- Reading what was written gives the number back, as far as it fits. -/
theorem ofBigEndian_bigEndian (width n : Nat) :
    ofBigEndian (bigEndian width n) = n % 256 ^ width := by
  induction width generalizing n with
  | zero => simp [bigEndian, Nat.mod_one]
  | succ width ih =>
    rw [bigEndian, ofBigEndian_concat, ih, UInt8.toNat_ofNat', pow_succ' 256, Nat.mod_mul]
    omega

/-- Digits stand for a number that fits. -/
theorem ofBigEndian_lt (digits : Bytes) : ofBigEndian digits < 256 ^ digits.length := by
  induction digits using List.reverseRecOn with
  | nil => simp
  | append_singleton digits digit ih =>
    have hd := digit.toNat_lt
    rw [ofBigEndian_concat, List.length_append, List.length_singleton, pow_succ']
    omega

/-- Writing what was read gives the digits back. -/
theorem bigEndian_ofBigEndian (digits : Bytes) :
    bigEndian digits.length (ofBigEndian digits) = digits := by
  induction digits using List.reverseRecOn with
  | nil => rfl
  | append_singleton digits digit ih =>
    have hd := digit.toNat_lt
    rw [ofBigEndian_concat, List.length_append, List.length_singleton, bigEndian]
    have high : (256 * ofBigEndian digits + digit.toNat) / 256 = ofBigEndian digits := by omega
    have low : UInt8.ofNat (256 * ofBigEndian digits + digit.toNat) = digit := by
      apply UInt8.toNat_inj.mp
      rw [UInt8.toNat_ofNat']
      omega
    rw [high, low, ih]

/-- A number that fits is cut off a byte string in one way only. -/
theorem bigEndian_append_inj {width m n : Nat} {rest last : Bytes} (hm : m < 256 ^ width)
    (hn : n < 256 ^ width) :
    bigEndian width m ++ rest = bigEndian width n ++ last ↔ m = n ∧ rest = last := by
  have length : (bigEndian width m).length = (bigEndian width n).length := by simp
  rw [List.append_eq_append_iff_of_size_eq_left length]
  refine and_congr_left fun _ => ⟨fun eq => ?_, fun eq => by rw [eq]⟩
  have read := ofBigEndian_bigEndian width n
  rw [← eq, ofBigEndian_bigEndian, Nat.mod_eq_of_lt hm, Nat.mod_eq_of_lt hn] at read
  exact read

/-- A signed number is known from its 64 bits. -/
theorem toNat_toUInt64_inj {m n : Int64} : m.toUInt64.toNat = n.toUInt64.toNat ↔ m = n := by
  refine ⟨fun eq => ?_, fun eq => by rw [eq]⟩
  simpa using congrArg UInt64.toInt64 (UInt64.toNat_inj.mp eq)

/-- Reading what was written gives the number back, as far as it fits. -/
theorem ofLittleEndian_littleEndian (width n : Nat) :
    ofLittleEndian (littleEndian width n) = n % 256 ^ width := by
  induction width generalizing n with
  | zero => simp [littleEndian, ofLittleEndian, Nat.mod_one]
  | succ width ih =>
    rw [littleEndian, ofLittleEndian, ih, UInt8.toNat_ofNat', pow_succ' 256, Nat.mod_mul]

/-- Different numbers that fit have different bytes. -/
theorem littleEndian_inj {width m n : Nat} (hm : m < 256 ^ width) (hn : n < 256 ^ width) :
    littleEndian width m = littleEndian width n ↔ m = n := by
  refine ⟨fun eq => ?_, fun eq => by rw [eq]⟩
  have read := ofLittleEndian_littleEndian width n
  rw [← eq, ofLittleEndian_littleEndian, Nat.mod_eq_of_lt hm, Nat.mod_eq_of_lt hn] at read
  exact read

end Licensing.Bytes
