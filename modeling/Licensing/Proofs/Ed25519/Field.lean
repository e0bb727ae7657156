import Licensing.Proofs.Ed25519.Prime
import Mathlib.NumberTheory.LegendreSymbol.Basic

/-!
# The residues of the field of edwards25519

What is computed with the representatives of the field, seen in the field of residues modulo the
prime.

## Main definitions

* `Ed25519.Field.residue` — the residue of a representative.
* `Ed25519.Field.even` — the one of a representative and its opposite that is even.
* `Ed25519.Field.candidate` — the number that is tried as a root of a quotient.

## Main results

* `Ed25519.Field.residue_pow`, `Ed25519.Field.residue_inv` — powers and inverses.
* `Ed25519.Field.sqrtRatio?_eq_some` — the even square root of a quotient that is a square.
-/

namespace Licensing.Ed25519

instance : Fact prime.Prime :=
  ⟨prime_prime⟩

namespace Field

/-- The residue of a representative. -/
def residue (x : Field) : ZMod prime :=
  (x.val : ZMod prime)

theorem residue_ofNat (n : Nat) : residue (ofNat n) = n := by
  rw [residue, ofNat, Fin.val_ofNat, ZMod.natCast_mod]

theorem residue_injective : Function.Injective residue := by
  intro x y h
  rw [residue, residue, ZMod.natCast_eq_natCast_iff', Nat.mod_eq_of_lt x.isLt,
    Nat.mod_eq_of_lt y.isLt] at h
  exact Fin.ext h

@[simp] theorem residue_add (x y : Field) : residue (x + y) = residue x + residue y := by
  rw [residue, Fin.val_add, ZMod.natCast_mod, Nat.cast_add]
  rfl

@[simp] theorem residue_mul (x y : Field) : residue (x * y) = residue x * residue y := by
  rw [residue, Fin.val_mul, ZMod.natCast_mod, Nat.cast_mul]
  rfl

@[simp] theorem residue_zero : residue 0 = 0 := by
  rw [show (0 : Field) = ofNat 0 from rfl, residue_ofNat, Nat.cast_zero]

@[simp] theorem residue_one : residue 1 = 1 := by
  rw [show (1 : Field) = ofNat 1 from rfl, residue_ofNat, Nat.cast_one]

@[simp] theorem residue_two : residue 2 = 2 := by
  rw [show (2 : Field) = ofNat 2 from rfl, residue_ofNat, Nat.cast_ofNat]

@[simp] theorem residue_sub (x y : Field) : residue (x - y) = residue x - residue y := by
  have lt : y.val ≤ prime := Nat.le_of_lt y.isLt
  rw [residue, Fin.val_sub, ZMod.natCast_mod, Nat.cast_add, Nat.cast_sub lt, ZMod.natCast_self,
    zero_sub, neg_add_eq_sub]
  rfl

@[simp] theorem residue_neg (x : Field) : residue (-x) = -residue x := by
  have lt : x.val ≤ prime := Nat.le_of_lt x.isLt
  rw [residue, Fin.val_neg', ZMod.natCast_mod, Nat.cast_sub lt, ZMod.natCast_self, zero_sub]
  rfl

theorem residue_eq_iff {x y : Field} : residue x = residue y ↔ x = y :=
  residue_injective.eq_iff

/-! ### Powers -/

theorem residue_powBits (x : Field) (bits exponent : Nat) :
    residue (powBits x bits exponent) = residue x ^ (exponent % 2 ^ bits) := by
  induction bits generalizing exponent with
  | zero => rw [powBits, residue_one, pow_zero, Nat.mod_one, pow_zero]
  | succ bits ih =>
    rw [powBits, mod_two_pow_succ]
    split
    · next odd => rw [residue_mul, residue_mul, ih, odd, pow_succ, pow_add]
    · next even => rw [residue_mul, ih, Nat.mod_two_ne_one.mp even, add_zero, pow_add]

theorem residue_pow {x : Field} {exponent : Nat} (h : exponent < 2 ^ 256) :
    residue (pow x exponent) = residue x ^ exponent := by
  rw [pow, residue_powBits, Nat.mod_eq_of_lt h]

theorem residue_inv (x : Field) : residue (inv x) = (residue x)⁻¹ := by
  rw [inv, residue_pow (by decide)]
  rcases eq_or_ne (residue x) 0 with zero | nonzero
  · rw [zero, inv_zero, zero_pow (by decide)]
  · refine eq_inv_of_mul_eq_one_left ?_
    rw [← pow_succ, show prime - 2 + 1 = prime - 1 from rfl, ZMod.pow_card_sub_one_eq_one nonzero]

/-! ### Even representatives -/

/-- The opposite of a representative other than zero has the other parity, since the prime is
odd. -/
theorem isOdd_neg {x : Field} (h : x ≠ 0) : (-x).isOdd = !x.isOdd := by
  have pos : 0 < x.val := Nat.pos_of_ne_zero fun zero => h (Fin.ext zero)
  have val : (-x).val = prime - x.val := by
    rw [Fin.val_neg', Nat.mod_eq_of_lt (by omega)]
  have odd : prime % 2 = 1 := by decide
  have lt : x.val < prime := x.isLt
  rw [isOdd, isOdd, val, ← decide_not, decide_eq_decide]
  omega

/-- The one of a representative and its opposite that is even. -/
def even (x : Field) : Field :=
  if x.isOdd then -x else x

theorem even_neg (x : Field) : even (-x) = even x := by
  rcases eq_or_ne x 0 with rfl | h
  · rfl
  · rw [even, even, isOdd_neg h, neg_neg]
    cases x.isOdd <;> rfl

theorem even_eq_even {x y : Field} (h : residue x ^ 2 = residue y ^ 2) : even x = even y := by
  rcases sq_eq_sq_iff_eq_or_eq_neg.mp h with eq | eq
  · rw [residue_injective eq]
  · rw [← residue_neg] at eq
    rw [residue_injective eq, even_neg]

/-! ### Square roots -/

theorem residue_sqrtMinusOne : residue sqrtMinusOne * residue sqrtMinusOne = -1 := by
  have square : sqrtMinusOne * sqrtMinusOne = -1 := by decide
  rw [← residue_mul, square, residue_neg, residue_one]

/-- The number that is tried as a root of `u / v`. -/
def candidate (u v : Field) : Field :=
  let cube := v * v * v
  u * cube * pow (u * (cube * cube * v)) ((prime - 5) / 8)

theorem sqrtRatio?_eq (u v : Field) :
    sqrtRatio? u v =
      if v * candidate u v * candidate u v = u then some (even (candidate u v))
      else if v * candidate u v * candidate u v = -u then
        some (even (candidate u v * sqrtMinusOne))
      else none :=
  rfl

/-- If `u / v` is the square of `x`, the square of the number that is tried is `u / v` up to the
sign, by Euler's criterion for `x v ^ 4`. -/
theorem residue_candidate {u v : Field} {x : ZMod prime} (h : x ^ 2 * residue v = residue u) :
    residue v * residue (candidate u v) ^ 2 = residue u ∨
      residue v * residue (candidate u v) ^ 2 = -residue u := by
  have exponent : prime / 2 = 2 * (2 * ((prime - 5) / 8) + 1) := by decide
  have power : residue v * residue (candidate u v) ^ 2 =
      residue u * (x * residue v ^ 4) ^ (prime / 2) := by
    simp only [candidate, residue_mul, residue_pow (show (prime - 5) / 8 < 2 ^ 256 by decide)]
    rw [exponent, ← h]
    ring
  rw [power]
  rcases eq_or_ne (x * residue v ^ 4) 0 with zero | nonzero
  · left
    have zero : residue u = 0 := by
      rw [← h]
      rcases mul_eq_zero.mp zero with zero | zero
      · rw [zero, zero_pow two_ne_zero, zero_mul]
      · rw [eq_zero_of_pow_eq_zero zero, mul_zero]
    rw [zero, zero_mul]
  · rcases ZMod.pow_div_two_eq_neg_one_or_one prime nonzero with one | one <;> rw [one]
    · exact .inl (mul_one _)
    · exact .inr (mul_neg_one _)

/-- If `u / v` is a square, then its even root is found. -/
theorem sqrtRatio?_eq_some {u v x : Field} (nonzero : residue v ≠ 0)
    (h : residue x ^ 2 * residue v = residue u) : sqrtRatio? u v = some (even x) := by
  have root {r : Field} (hr : residue v * residue r ^ 2 = residue u) : even r = even x := by
    refine even_eq_even (mul_left_cancel₀ nonzero ?_)
    rw [hr, ← h, mul_comm]
  have found := residue_candidate h
  rw [sqrtRatio?_eq]
  generalize candidate u v = r at found ⊢
  have check {w : Field} : v * r * r = w ↔ residue v * residue r ^ 2 = residue w := by
    rw [← residue_eq_iff, residue_mul, residue_mul, mul_assoc, sq]
  simp only [check, residue_neg]
  split_ifs with same opposite
  · rw [root same]
  · refine congrArg some (root ?_)
    rw [residue_mul]
    linear_combination residue v * residue r ^ 2 * residue_sqrtMinusOne - opposite
  · exact absurd found (not_or.mpr ⟨same, opposite⟩)

end Field

end Licensing.Ed25519
