import Mathlib.Algebra.Group.Even
import Mathlib.Algebra.Field.Basic
import Mathlib.Tactic.FieldSimp
import Mathlib.Tactic.LinearCombination
import Mathlib.Tactic.Ring

/-!
# The group of a twisted Edwards curve

The points of a curve `-x² + y² = 1 + d x² y²` over a field in which `-1` is a square and `d` is
none. One formula adds all pairs of points, since its denominators are never zero.

## Main definitions

* `Edwards.Curve` — such a curve.
* `Edwards.Point` — its points.

## Main results

* `Edwards.Point.one_add_cross_ne_zero`, `Edwards.Point.one_sub_cross_ne_zero` — the denominators.
* `Edwards.Point.instAddCommGroup` — the points are a commutative group.
-/

namespace Licensing.Edwards

/-- A curve `-x² + y² = 1 + d x² y²` on which one formula adds all pairs of points. -/
structure Curve (K : Type) [Field K] where
  d : K
  /-- A square root of minus one. -/
  i : K
  i_mul_i : i * i = -1
  not_isSquare : ¬ IsSquare d
  two_ne_zero : (2 : K) ≠ 0

variable {K : Type} [Field K]

theorem Curve.i_ne_zero (C : Curve K) : C.i ≠ 0 := by
  intro zero
  have square := C.i_mul_i
  simp [zero] at square

/-- A point of a curve. -/
@[ext] structure Point (C : Curve K) where
  x : K
  y : K
  on_curve : -x ^ 2 + y ^ 2 = 1 + C.d * x ^ 2 * y ^ 2

namespace Point

variable {C : Curve K}

/-- What the denominators of the sum of two points differ from one by. -/
def cross (P Q : Point C) : K :=
  C.d * (P.x * P.y) * (Q.x * Q.y)

/-! ### The denominators -/

/-- If the square of a product of coordinates with `d` is one, then `d` and a square make a square.
For `y₂` and `e` both signs may be taken. -/
theorem square_eq {x₁ y₁ x₂ y₂ e : K} (h₁ : -x₁ ^ 2 + y₁ ^ 2 = 1 + C.d * x₁ ^ 2 * y₁ ^ 2)
    (h₂ : -x₂ ^ 2 + y₂ ^ 2 = 1 + C.d * x₂ ^ 2 * y₂ ^ 2)
    (he : C.d * (x₁ * y₁) * (x₂ * y₂) = e) (unit : e * e = 1) :
    (C.i * x₁ + e * y₁) ^ 2 = C.d * (x₁ * y₁ * (C.i * x₂ + y₂)) ^ 2 := by
  linear_combination (x₁ ^ 2 - C.d * x₁ ^ 2 * y₁ ^ 2 * x₂ ^ 2) * C.i_mul_i + (y₁ ^ 2 - 1) * unit +
    h₁ - C.d * x₁ ^ 2 * y₁ ^ 2 * h₂ -
    (C.d * (x₁ * y₁) * (x₂ * y₂) + e + 2 * C.i * x₁ * y₁) * he

theorem eq_zero_of_square_eq {r s : K} (h : r ^ 2 = C.d * s ^ 2) : s = 0 := by
  by_contra hs
  refine C.not_isSquare ⟨r / s, ?_⟩
  field_simp
  linear_combination -h

/-- The product of coordinates with `d` is neither one nor minus one. -/
theorem cross_ne_of_mul_self (P Q : Point C) {e : K} (unit : e * e = 1) : P.cross Q ≠ e := by
  intro he
  have nonzero : C.d * (P.x * P.y) * (Q.x * Q.y) ≠ 0 := by
    intro zero
    rw [cross, zero] at he
    simp [← he] at unit
  have parts : C.d ≠ 0 ∧ P.x * P.y ≠ 0 ∧ Q.x ≠ 0 ∧ Q.y ≠ 0 := by
    simpa [and_assoc] using nonzero
  obtain ⟨-, hP, -, hQ⟩ := parts
  have plus : P.x * P.y * (C.i * Q.x + Q.y) = 0 :=
    eq_zero_of_square_eq (square_eq P.on_curve Q.on_curve he unit)
  have minus : P.x * P.y * (C.i * Q.x + -Q.y) = 0 := by
    refine eq_zero_of_square_eq (square_eq (e := -e) P.on_curve ?_ ?_ ?_)
    · linear_combination Q.on_curve
    · rw [← he, cross]
      ring
    · linear_combination unit
  have double : 2 * Q.y = 0 := by
    linear_combination (mul_eq_zero.mp plus).resolve_left hP -
      (mul_eq_zero.mp minus).resolve_left hP
  exact hQ ((mul_eq_zero.mp double).resolve_left C.two_ne_zero)

theorem one_add_cross_ne_zero (P Q : Point C) : 1 + P.cross Q ≠ 0 := by
  intro zero
  refine P.cross_ne_of_mul_self Q (e := -1) (by ring) ?_
  linear_combination zero

theorem one_sub_cross_ne_zero (P Q : Point C) : 1 - P.cross Q ≠ 0 := by
  intro zero
  refine P.cross_ne_of_mul_self Q (e := 1) (by ring) ?_
  linear_combination -zero

/-! ### The group -/

/-- The sum satisfies the equation of the curve, its denominators cleared. -/
theorem on_curve_add {d x₁ y₁ x₂ y₂ : K} (h₁ : -x₁ ^ 2 + y₁ ^ 2 = 1 + d * x₁ ^ 2 * y₁ ^ 2)
    (h₂ : -x₂ ^ 2 + y₂ ^ 2 = 1 + d * x₂ ^ 2 * y₂ ^ 2) :
    -((x₁ * y₂ + y₁ * x₂) * (1 - d * (x₁ * y₁) * (x₂ * y₂))) ^ 2 +
        ((y₁ * y₂ + x₁ * x₂) * (1 + d * (x₁ * y₁) * (x₂ * y₂))) ^ 2 =
      ((1 + d * (x₁ * y₁) * (x₂ * y₂)) * (1 - d * (x₁ * y₁) * (x₂ * y₂))) ^ 2 +
        d * ((x₁ * y₂ + y₁ * x₂) * (y₁ * y₂ + x₁ * x₂)) ^ 2 := by
  grind

/-- An equation of the curve with its denominators cleared. -/
theorem on_curve_div {d N M A B : K} (hA : A ≠ 0) (hB : B ≠ 0)
    (h : -(N * B) ^ 2 + (M * A) ^ 2 = (A * B) ^ 2 + d * (N * M) ^ 2) :
    -(N / A) ^ 2 + (M / B) ^ 2 = 1 + d * (N / A) ^ 2 * (M / B) ^ 2 := by
  field_simp
  linear_combination h

instance : Add (Point C) where
  add P Q :=
    { x := (P.x * Q.y + P.y * Q.x) / (1 + P.cross Q)
      y := (P.y * Q.y + P.x * Q.x) / (1 - P.cross Q)
      on_curve := on_curve_div (P.one_add_cross_ne_zero Q) (P.one_sub_cross_ne_zero Q)
        (on_curve_add P.on_curve Q.on_curve) }

instance : Zero (Point C) where
  zero := { x := 0, y := 1, on_curve := by ring }

instance : Neg (Point C) where
  neg P := { x := -P.x, y := P.y, on_curve := by linear_combination P.on_curve }

theorem x_add (P Q : Point C) : (P + Q).x = (P.x * Q.y + P.y * Q.x) / (1 + P.cross Q) := rfl

theorem y_add (P Q : Point C) : (P + Q).y = (P.y * Q.y + P.x * Q.x) / (1 - P.cross Q) := rfl

@[simp] theorem x_zero : (0 : Point C).x = 0 := rfl

@[simp] theorem y_zero : (0 : Point C).y = 1 := rfl

@[simp] theorem x_neg (P : Point C) : (-P).x = -P.x := rfl

@[simp] theorem y_neg (P : Point C) : (-P).y = P.y := rfl

theorem cross_comm (P Q : Point C) : P.cross Q = Q.cross P := by
  rw [cross, cross]
  ring

protected theorem add_comm (P Q : Point C) : P + Q = Q + P := by
  ext
  · rw [x_add, x_add, cross_comm, add_comm, mul_comm P.x, mul_comm P.y]
  · rw [y_add, y_add, cross_comm, mul_comm P.x, mul_comm P.y]

protected theorem zero_add (P : Point C) : 0 + P = P := by
  ext <;> simp [x_add, y_add, cross]

protected theorem neg_add_cancel (P : Point C) : -P + P = 0 := by
  ext
  · rw [x_add, x_neg, y_neg, x_zero, div_eq_zero_iff]
    left
    ring
  · rw [y_add, y_zero, div_eq_one_iff_eq (one_sub_cross_ne_zero _ _), x_neg, y_neg, cross, x_neg,
      y_neg]
    linear_combination P.on_curve

/-! ### Associativity -/

/-- The first coordinates of two sums of three points agree, their denominators cleared. -/
theorem rotate_of_on_curve {d x₁ y₁ x₂ y₂ x₃ y₃ : K}
    (h₁ : -x₁ ^ 2 + y₁ ^ 2 = 1 + d * x₁ ^ 2 * y₁ ^ 2)
    (h₂ : -x₂ ^ 2 + y₂ ^ 2 = 1 + d * x₂ ^ 2 * y₂ ^ 2)
    (h₃ : -x₃ ^ 2 + y₃ ^ 2 = 1 + d * x₃ ^ 2 * y₃ ^ 2) :
    ((x₁ * y₂ + y₁ * x₂) * (1 - d * (x₁ * y₁) * (x₂ * y₂)) * y₃ +
        (y₁ * y₂ + x₁ * x₂) * (1 + d * (x₁ * y₁) * (x₂ * y₂)) * x₃) *
      ((1 + d * (x₂ * y₂) * (x₃ * y₃)) * (1 - d * (x₂ * y₂) * (x₃ * y₃)) +
        d * ((x₂ * y₃ + y₂ * x₃) * (y₂ * y₃ + x₂ * x₃)) * (x₁ * y₁)) =
    ((x₂ * y₃ + y₂ * x₃) * (1 - d * (x₂ * y₂) * (x₃ * y₃)) * y₁ +
        (y₂ * y₃ + x₂ * x₃) * (1 + d * (x₂ * y₂) * (x₃ * y₃)) * x₁) *
      ((1 + d * (x₁ * y₁) * (x₂ * y₂)) * (1 - d * (x₁ * y₁) * (x₂ * y₂)) +
        d * ((x₁ * y₂ + y₁ * x₂) * (y₁ * y₂ + x₁ * x₂)) * (x₃ * y₃)) := by
  grind

/-- A quotient with quotients in it, the inner denominators cleared. -/
theorem nested_div {d N M A B x y : K} (hA : A ≠ 0) (hB : B ≠ 0)
    (h : 1 + d * (N / A * (M / B)) * (x * y) ≠ 0) :
    A * B + d * (N * M) * (x * y) ≠ 0 ∧
      (N / A * y + M / B * x) / (1 + d * (N / A * (M / B)) * (x * y)) =
        (N * B * y + M * A * x) / (A * B + d * (N * M) * (x * y)) := by
  have cleared : A * B + d * (N * M) * (x * y) =
      A * B * (1 + d * (N / A * (M / B)) * (x * y)) := by
    field_simp
  have outer : N * B * y + M * A * x = A * B * (N / A * y + M / B * x) := by
    field_simp
  refine ⟨?_, ?_⟩
  · rw [cleared]
    exact mul_ne_zero (mul_ne_zero hA hB) h
  · rw [cleared, outer, mul_div_mul_left _ _ (mul_ne_zero hA hB)]

/-- The first coordinate of a sum of three points does not change when they trade places. -/
theorem x_add_rotate (P Q R : Point C) : (P + Q + R).x = (Q + R + P).x := by
  obtain ⟨left, eq⟩ := nested_div (P.one_add_cross_ne_zero Q) (P.one_sub_cross_ne_zero Q)
    ((P + Q).one_add_cross_ne_zero R)
  obtain ⟨right, eq'⟩ := nested_div (Q.one_add_cross_ne_zero R) (Q.one_sub_cross_ne_zero R)
    ((Q + R).one_add_cross_ne_zero P)
  refine eq.trans (Eq.trans ?_ eq'.symm)
  rw [div_eq_div_iff left right]
  exact rotate_of_on_curve P.on_curve Q.on_curve R.on_curve

/-- A point turned by a quarter: its coordinates trade places. -/
def turn (P : Point C) : Point C where
  x := C.i * P.y
  y := C.i * P.x
  on_curve := by
    linear_combination (P.x ^ 2 - P.y ^ 2 - C.d * P.x ^ 2 * P.y ^ 2 * (C.i * C.i - 1)) * C.i_mul_i +
      P.on_curve

@[simp] theorem x_turn (P : Point C) : P.turn.x = C.i * P.y := rfl

@[simp] theorem y_turn (P : Point C) : P.turn.y = C.i * P.x := rfl

theorem turn_add (P Q : Point C) : P.turn + Q = (P + Q).turn := by
  have cross_turn : P.turn.cross Q = -P.cross Q := by
    rw [cross, cross, x_turn, y_turn]
    linear_combination C.d * (P.x * P.y) * (Q.x * Q.y) * C.i_mul_i
  ext
  · rw [x_add, cross_turn, x_turn, y_turn, x_turn, y_add]
    ring
  · rw [y_add, cross_turn, x_turn, y_turn, y_turn, x_add]
    ring

protected theorem add_assoc (P Q R : Point C) : P + Q + R = P + (Q + R) := by
  have first (P Q R : Point C) : (P + Q + R).x = (P + (Q + R)).x := by
    rw [x_add_rotate, Point.add_comm]
  ext
  · exact first P Q R
  · have second := first P.turn Q R
    rw [turn_add, turn_add, turn_add] at second
    exact mul_left_cancel₀ C.i_ne_zero second

instance instAddCommGroup : AddCommGroup (Point C) where
  add_assoc := Point.add_assoc
  zero_add := Point.zero_add
  add_zero P := by rw [Point.add_comm, Point.zero_add]
  neg_add_cancel := Point.neg_add_cancel
  add_comm := Point.add_comm
  nsmul := nsmulRec
  zsmul := zsmulRec

end Point

end Licensing.Edwards
