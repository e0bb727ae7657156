import Licensing.Bytes

/-!
# The field of edwards25519

The integers modulo the prime `2 ^ 255 - 19`, with what reading a compressed point needs: powers,
the square root of a quotient and the parity of a representative.

## Main definitions

* `Ed25519.Field` — the field.
* `Ed25519.Field.pow` — powers, by squaring.
* `Ed25519.Field.sqrtRatio?` — an even square root of `u / v`, if there is one.
-/

namespace Licensing.Ed25519

/-- The prime of the field. -/
def prime : Nat :=
  Nat.pow 2 255 - 19

instance : @NeZero Nat Zero.ofOfNat0 prime :=
  ⟨by decide⟩

/-- The integers modulo the prime. -/
abbrev Field : Type :=
  Fin prime

namespace Field

/-- The residue of a number. -/
def ofNat (n : Nat) : Field :=
  Fin.ofNat prime n

/-- The power to the last `bits` binary digits of an exponent, by squaring. -/
def powBits (x : Field) : (bits : Nat) → (exponent : Nat) → Field
  | 0, _ => 1
  | bits + 1, exponent =>
    let root := powBits x bits (exponent / 2)
    if exponent % 2 = 1 then root * root * x else root * root

/-- The power to an exponent below `2 ^ 256`. -/
def pow (x : Field) (exponent : Nat) : Field :=
  powBits x 256 exponent

/-- The inverse, zero for zero. -/
def inv (x : Field) : Field :=
  pow x (prime - 2)

/-- A square root of minus one. -/
def sqrtMinusOne : Field :=
  ofNat 19681161376707505956807079304988542015446066515923890162744021073123829784752

/-- The representative below the prime is odd. -/
def isOdd (x : Field) : Bool :=
  x.val % 2 = 1

/-- The square root of `u / v` whose representative is even, if `u / v` is a square. -/
def sqrtRatio? (u v : Field) : Option Field :=
  let cube := v * v * v
  let root := u * cube * pow (u * (cube * cube * v)) ((prime - 5) / 8)
  let check := v * root * root
  let even := fun x : Field => if x.isOdd then -x else x
  if check = u then some (even root)
  else if check = -u then some (even (root * sqrtMinusOne))
  else none

end Field

end Licensing.Ed25519
