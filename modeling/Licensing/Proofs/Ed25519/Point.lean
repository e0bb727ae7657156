import Licensing.Ed25519.Point
import Licensing.Proofs.Bytes.Numbers
import Licensing.Proofs.Ed25519.Field
import Licensing.Proofs.Edwards

/-!
# The points of edwards25519 as a group

Points in extended coordinates stand for points of a twisted Edwards curve over the residues modulo
the prime. What is computed with the former is what the group of the latter says.

## Main definitions

* `Ed25519.curve` — the curve over the residues.
* `Ed25519.Point.Represents` — a point in extended coordinates stands for a point of the curve.

## Main results

* `Ed25519.Point.Represents.add`, `Ed25519.Point.Represents.smul` — sums and multiples.
* `Ed25519.Point.Represents.decompress?_compress` — a compressed point is read back.
-/

namespace Licensing.Ed25519

open Ed25519.Field (residue residue_injective residue_eq_iff)

set_option maxRecDepth 10000 in
/-- The coefficient of the curve is no square, by Euler's criterion. -/
theorem not_isSquare_coefficient : ¬ IsSquare (residue coefficient) := by
  have power : coefficient.pow (prime / 2) ≠ 1 := by decide
  have nonzero : residue coefficient ≠ 0 := by
    rw [← Field.residue_zero, ne_eq, residue_eq_iff]
    decide
  rw [ZMod.euler_criterion prime nonzero, ← Field.residue_pow (by decide), ← Field.residue_one,
    residue_eq_iff]
  exact power

/-- The curve over the residues. -/
def curve : Edwards.Curve (ZMod prime) where
  d := residue coefficient
  i := residue Field.sqrtMinusOne
  i_mul_i := Field.residue_sqrtMinusOne
  not_isSquare := not_isSquare_coefficient
  two_ne_zero := by
    rw [← Field.residue_two, ← Field.residue_zero, ne_eq, residue_eq_iff]
    decide

/-- The base point. -/
def basePoint : Edwards.Point curve where
  x := residue Point.base.X
  y := residue Point.base.Y
  on_curve := by
    have eq : -(Point.base.X * Point.base.X) + Point.base.Y * Point.base.Y =
        1 + coefficient * (Point.base.X * Point.base.X) * (Point.base.Y * Point.base.Y) := by
      decide
    have residues := congrArg residue eq
    simp only [Field.residue_add, Field.residue_mul, Field.residue_neg, Field.residue_one]
      at residues
    rw [sq, sq]
    exact residues

namespace Point

/-- A point in extended coordinates stands for a point of the curve. -/
structure Represents (P : Point) (A : Edwards.Point curve) : Prop where
  nonzero : residue P.Z ≠ 0
  X_eq : residue P.X = A.x * residue P.Z
  Y_eq : residue P.Y = A.y * residue P.Z
  T_eq : residue P.T = A.x * A.y * residue P.Z

theorem represents_ofAffine {x y : Field} {A : Edwards.Point curve} (hx : residue x = A.x)
    (hy : residue y = A.y) : (ofAffine x y).Represents A := by
  constructor <;> simp [ofAffine, hx, hy]

theorem represents_zero : zero.Represents 0 :=
  represents_ofAffine Field.residue_zero Field.residue_one

theorem represents_base : base.Represents basePoint :=
  represents_ofAffine rfl rfl

theorem Represents.neg {P : Point} {A : Edwards.Point curve} (h : P.Represents A) :
    P.neg.Represents (-A) := by
  refine ⟨h.nonzero, ?_, h.Y_eq, ?_⟩
  · rw [Point.neg, Field.residue_neg, h.X_eq, Edwards.Point.x_neg, neg_mul]
  · rw [Point.neg, Field.residue_neg, h.T_eq, Edwards.Point.x_neg, Edwards.Point.y_neg, neg_mul,
      neg_mul]

/-- Sums are computed without dividing: both coordinates of the sum are quotients by numbers whose
product is the common denominator. -/
theorem Represents.add {P Q : Point} {A B : Edwards.Point curve} (hP : P.Represents A)
    (hQ : Q.Represents B) : (P.add Q).Represents (A + B) := by
  have plus := A.one_add_cross_ne_zero B
  have minus := A.one_sub_cross_ne_zero B
  have scale : 2 * residue P.Z * residue Q.Z ≠ 0 :=
    mul_ne_zero (mul_ne_zero curve.two_ne_zero hP.nonzero) hQ.nonzero
  have hE : residue ((P.Y + P.X) * (Q.Y + Q.X) - (P.Y - P.X) * (Q.Y - Q.X)) =
      2 * residue P.Z * residue Q.Z * (A.x * B.y + A.y * B.x) := by
    simp only [Field.residue_sub, Field.residue_mul, Field.residue_add, hP.X_eq, hP.Y_eq, hQ.X_eq,
      hQ.Y_eq]
    ring
  have hH : residue ((P.Y + P.X) * (Q.Y + Q.X) + (P.Y - P.X) * (Q.Y - Q.X)) =
      2 * residue P.Z * residue Q.Z * (A.y * B.y + A.x * B.x) := by
    simp only [Field.residue_sub, Field.residue_mul, Field.residue_add, hP.X_eq, hP.Y_eq, hQ.X_eq,
      hQ.Y_eq]
    ring
  have hF : residue (2 * P.Z * Q.Z - 2 * coefficient * P.T * Q.T) =
      2 * residue P.Z * residue Q.Z * (1 - A.cross B) := by
    simp only [Field.residue_sub, Field.residue_mul, Field.residue_two, hP.T_eq, hQ.T_eq,
      Edwards.Point.cross, curve]
    ring
  have hG : residue (2 * P.Z * Q.Z + 2 * coefficient * P.T * Q.T) =
      2 * residue P.Z * residue Q.Z * (1 + A.cross B) := by
    simp only [Field.residue_add, Field.residue_mul, Field.residue_two, hP.T_eq, hQ.T_eq,
      Edwards.Point.cross, curve]
    ring
  constructor <;>
    simp only [Point.add, Field.residue_mul, hE, hF, hG, hH, Edwards.Point.x_add,
      Edwards.Point.y_add]
  · exact mul_ne_zero (mul_ne_zero scale minus) (mul_ne_zero scale plus)
  · field_simp
  · field_simp
  · field_simp

theorem Represents.smulBits {P : Point} {A : Edwards.Point curve} (h : P.Represents A)
    (bits n : Nat) : (P.smulBits bits n).Represents ((n % 2 ^ bits) • A) := by
  induction bits generalizing n with
  | zero =>
    rw [pow_zero, Nat.mod_one, zero_nsmul]
    exact represents_zero
  | succ bits ih =>
    have half := (ih (n / 2)).add (ih (n / 2))
    rw [Point.smulBits, mod_two_pow_succ, add_nsmul, add_nsmul]
    split
    · next odd =>
      rw [odd, one_nsmul]
      exact half.add h
    · next even =>
      rw [Nat.mod_two_ne_one.mp even, zero_nsmul, add_zero]
      exact half

theorem Represents.smul {P : Point} {A : Edwards.Point curve} (h : P.Represents A) {n : Nat}
    (small : n < 2 ^ 256) : (P.smul n).Represents (n • A) := by
  have multiple := h.smulBits 256 n
  rwa [Nat.mod_eq_of_lt small] at multiple

/-! ### Points as bytes -/

/-- A point is written as the representatives of the coordinates that it stands for. -/
theorem Represents.exists_affine {P : Point} {A : Edwards.Point curve} (h : P.Represents A) :
    ∃ x y : Field, residue x = A.x ∧ residue y = A.y ∧
      P.compress = Bytes.littleEndian 32 (y.val + if x.isOdd then signBit else 0) := by
  refine ⟨P.X * P.Z.inv, P.Y * P.Z.inv, ?_, ?_, rfl⟩
  · rw [Field.residue_mul, Field.residue_inv, h.X_eq, mul_inv_cancel_right₀ h.nonzero]
  · rw [Field.residue_mul, Field.residue_inv, h.Y_eq, mul_inv_cancel_right₀ h.nonzero]

/-- Points that stand for one and the same are written alike. -/
theorem Represents.compress_eq {P Q : Point} {A : Edwards.Point curve} (hP : P.Represents A)
    (hQ : Q.Represents A) : P.compress = Q.compress := by
  obtain ⟨x, y, hx, hy, eq⟩ := hP.exists_affine
  obtain ⟨x', y', hx', hy', eq'⟩ := hQ.exists_affine
  rw [eq, eq', residue_injective (hx.trans hx'.symm), residue_injective (hy.trans hy'.symm)]

/-- The divisor in the equation of the curve, solved for the square of the first coordinate, is not
zero. Otherwise the coefficient would be minus a square. -/
theorem divisor_ne_zero (A : Edwards.Point curve) : curve.d * (A.y * A.y) + 1 ≠ 0 := by
  intro zero
  refine curve.not_isSquare ⟨curve.i, ?_⟩
  have one : A.y ^ 2 = 1 := by linear_combination A.on_curve + A.x ^ 2 * zero
  linear_combination zero - curve.d * one - curve.i_mul_i

/-- A point that was compressed is read back. -/
theorem Represents.decompress?_compress {P : Point} {A : Edwards.Point curve}
    (h : P.Represents A) : ∃ Q, decompress? P.compress = some Q ∧ Q.Represents A := by
  obtain ⟨x, y, hx, hy, eq⟩ := h.exists_affine
  refine ⟨ofAffine x y, ?_, represents_ofAffine hx hy⟩
  have lt : y.val < signBit := y.isLt.trans (by decide)
  have number : Bytes.ofLittleEndian P.compress = y.val + if x.isOdd then signBit else 0 := by
    rw [eq, Bytes.ofLittleEndian_littleEndian, Nat.mod_eq_of_lt]
    have : signBit + signBit = 256 ^ 32 := by decide
    split <;> omega
  have coordinate : (y.val + if x.isOdd then signBit else 0) % signBit = y.val := by
    split
    · rw [Nat.add_mod_right, Nat.mod_eq_of_lt lt]
    · exact Nat.mod_eq_of_lt lt
  have sign : (y.val + if x.isOdd then signBit else 0) / signBit % 2 = 1 ↔ x.isOdd = true := by
    split
    · next odd => simp [Nat.add_div_right _ (Nat.zero_lt_of_lt lt), Nat.div_eq_of_lt lt, odd]
    · next even => simp [Nat.div_eq_of_lt lt, even]
  have root : Field.sqrtRatio? (y * y - 1) (coefficient * (y * y) + 1) = some x.even := by
    have d : residue coefficient = curve.d := rfl
    refine Field.sqrtRatio?_eq_some ?_ ?_ <;>
      simp only [Field.residue_add, Field.residue_sub, Field.residue_mul, Field.residue_one, hx, hy,
        d]
    · exact divisor_ne_zero A
    · linear_combination -A.on_curve
  have read : Field.ofNat y.val = y := Fin.ext (Nat.mod_eq_of_lt y.isLt)
  simp only [decompress?, number, coordinate, read, root, Option.map_some, sign, Field.even]
  cases x.isOdd <;> simp

end Point

end Licensing.Ed25519
