import Licensing.Ed25519.Field

/-!
# The points of edwards25519

The curve `-x² + y² = 1 + d x² y²`, in extended coordinates `(X : Y : Z : T)` with `x = X / Z`,
`y = Y / Z` and `x y = T / Z`. One addition formula serves all pairs of points. A point is written
as its `y` in 255 bits, followed by one bit for the parity of `x`.

## Main definitions

* `Ed25519.Point.add`, `Ed25519.Point.neg`, `Ed25519.Point.smul` — the group.
* `Ed25519.Point.base` — the base point.
* `Ed25519.Point.compress`, `Ed25519.Point.decompress?` — points as 32 bytes.

## Implementation notes

Reading takes `y` modulo the prime, so that a number from the prime on is read too, and takes the
parity bit of `x = 0` either way.
-/

namespace Licensing.Ed25519

/-- The coefficient of the curve, `-121665 / 121666`. -/
def coefficient : Field :=
  .ofNat 37095705934669439343138083508754565189542113879843219016388785533085940283555

/-- A point in extended coordinates. -/
structure Point where
  X : Field
  Y : Field
  Z : Field
  T : Field
  deriving DecidableEq, Repr

namespace Point

/-- The point with the given affine coordinates. -/
def ofAffine (x y : Field) : Point :=
  ⟨x, y, 1, x * y⟩

/-- The neutral point. -/
def zero : Point :=
  ofAffine 0 1

/-- The base point. -/
def base : Point :=
  ofAffine
    (.ofNat 15112221349535400772501151409588531511454012693041857206046113283949847762202)
    (.ofNat 46316835694926478169428394003475163141307993866256225615783033603165251855960)

/-- The sum of two points. -/
def add (P Q : Point) : Point :=
  let A := (P.Y - P.X) * (Q.Y - Q.X)
  let B := (P.Y + P.X) * (Q.Y + Q.X)
  let C := 2 * coefficient * P.T * Q.T
  let D := 2 * P.Z * Q.Z
  let E := B - A
  let F := D - C
  let G := D + C
  let H := B + A
  ⟨E * F, G * H, F * G, E * H⟩

/-- The opposite of a point. -/
def neg (P : Point) : Point :=
  ⟨-P.X, P.Y, P.Z, -P.T⟩

/-- The multiple of a point by the last `bits` binary digits of a number, by doubling. -/
def smulBits (P : Point) : (bits : Nat) → (n : Nat) → Point
  | 0, _ => zero
  | bits + 1, n =>
    let half := smulBits P bits (n / 2)
    let even := half.add half
    if n % 2 = 1 then even.add P else even

/-- The multiple of a point by a number below `2 ^ 256`. -/
def smul (P : Point) (n : Nat) : Point :=
  smulBits P 256 n

/-- The value of the highest bit of 32 bytes, which is set if the first coordinate is odd. -/
def signBit : Nat :=
  Nat.pow 2 255

/-- The 32 bytes of a point. -/
def compress (P : Point) : Bytes :=
  let z := P.Z.inv
  let x := P.X * z
  let y := P.Y * z
  Bytes.littleEndian 32 (y.val + if x.isOdd then signBit else 0)

/-- The point that 32 bytes stand for. -/
def decompress? (bytes : Bytes) : Option Point :=
  let n := Bytes.ofLittleEndian bytes
  let y := Field.ofNat (n % signBit)
  let square := y * y
  (Field.sqrtRatio? (square - 1) (coefficient * square + 1)).map fun x =>
    ofAffine (if n / signBit % 2 = 1 then -x else x) y

end Point

end Licensing.Ed25519
