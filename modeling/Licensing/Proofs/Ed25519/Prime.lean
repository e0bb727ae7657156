import Licensing.Ed25519.Field
import Mathlib.NumberTheory.LucasPrimality
import Mathlib.Tactic.NormNum.Prime

/-!
# The prime of edwards25519

The number `2 ^ 255 - 19` is prime by Lucas's test: some number has the order `p - 1` modulo `p`.
The test needs the prime factors of `p - 1`, the greatest of which are known to be prime by the same
test.

## Main definitions

* `Lucas.powMod` — powers modulo a number, by squaring.
* `Lucas.passes` — Lucas's test with given factors.

## Main results

* `Lucas.prime_of_passes` — a number that passes the test is prime.
* `Ed25519.prime_prime` — the number `2 ^ 255 - 19` is prime.
-/

namespace Licensing

/-- The last binary digits of a number, from those of its half. -/
theorem mod_two_pow_succ (n bits : Nat) :
    n % 2 ^ (bits + 1) = n / 2 % 2 ^ bits + n / 2 % 2 ^ bits + n % 2 := by
  rw [pow_succ', Nat.mod_mul]
  omega

namespace Lucas

/-- The power to the last `bits` binary digits of an exponent modulo `m`, by squaring. -/
def powMod (m a : Nat) : (bits : Nat) → (exponent : Nat) → Nat
  | 0, _ => 1 % m
  | bits + 1, exponent =>
    let root := powMod m a bits (exponent / 2)
    if exponent % 2 = 1 then root * root * a % m else root * root % m

theorem cast_powMod (m a bits exponent : Nat) :
    ((powMod m a bits exponent : Nat) : ZMod m) = (a : ZMod m) ^ (exponent % 2 ^ bits) := by
  induction bits generalizing exponent with
  | zero => rw [powMod, ZMod.natCast_mod, Nat.cast_one, pow_zero, Nat.mod_one, pow_zero]
  | succ bits ih =>
    rw [powMod, mod_two_pow_succ]
    split
    · next odd =>
      rw [ZMod.natCast_mod, Nat.cast_mul, Nat.cast_mul, ih, odd, pow_succ, pow_add]
    · next even =>
      rw [ZMod.natCast_mod, Nat.cast_mul, ih, Nat.mod_two_ne_one.mp even, add_zero, pow_add]

/-- Lucas's test of `p` with the base `a`: the factors are those of `p - 1`, and `a` has the order
`p - 1` modulo `p`. -/
def passes (p a : Nat) (factors : List Nat) : Bool :=
  2 ≤ p && p < 2 ^ 256 && factors.prod == p - 1 && powMod p a 256 (p - 1) == 1 &&
    factors.all fun q => powMod p a 256 ((p - 1) / q) != 1

theorem powMod_lt {m a bits exponent : Nat} (h : 0 < m) : powMod m a bits exponent < m := by
  cases bits with
  | zero => exact Nat.mod_lt _ h
  | succ bits =>
    rw [powMod]
    split <;> exact Nat.mod_lt _ h

theorem pow_eq_one_iff {p a exponent : Nat} (h : 2 ≤ p) (small : exponent < 2 ^ 256) :
    (a : ZMod p) ^ exponent = 1 ↔ powMod p a 256 exponent = 1 := by
  rw [← Nat.mod_eq_of_lt small, ← cast_powMod, Nat.mod_eq_of_lt small, ← Nat.cast_one,
    ZMod.natCast_eq_natCast_iff', Nat.mod_eq_of_lt (powMod_lt (by omega)),
    Nat.mod_eq_of_lt (by omega)]

/-- A number that passes Lucas's test with prime factors is prime. -/
theorem prime_of_passes {p a : Nat} {factors : List Nat} (h : passes p a factors = true)
    (primes : ∀ q ∈ factors, q.Prime) : p.Prime := by
  simp only [passes, Bool.and_eq_true, decide_eq_true_eq, beq_iff_eq, List.all_eq_true,
    bne_iff_ne] at h
  obtain ⟨⟨⟨⟨least, small⟩, product⟩, whole⟩, parts⟩ := h
  refine lucas_primality p a ((pow_eq_one_iff least (by omega)).mpr whole) fun q hq divides => ?_
  rw [← product] at divides
  obtain ⟨r, hr, divides⟩ := hq.prime.dvd_prod_iff.mp divides
  obtain rfl := (Nat.prime_dvd_prime_iff_eq hq (primes r hr)).mp divides
  rw [ne_eq, pow_eq_one_iff least ((Nat.div_le_self ..).trans_lt (by omega))]
  exact parts q hr

end Lucas

namespace Ed25519

/-! ### The great factors of `p - 1`, and of these less one -/

set_option maxRecDepth 10000

theorem prime_2773320623 : Nat.Prime 2773320623 := by
  have passes : Lucas.passes 2773320623 5 [2, 2437, 569003] = true := by decide
  exact Lucas.prime_of_passes passes (by norm_num)

theorem prime_72106336199 : Nat.Prime 72106336199 := by
  have passes : Lucas.passes 72106336199 7 [2, 13, 2773320623] = true := by decide
  refine Lucas.prime_of_passes passes ?_
  simp only [List.forall_mem_cons, prime_2773320623]
  norm_num

theorem prime_1919519569386763 : Nat.Prime 1919519569386763 := by
  have passes : Lucas.passes 1919519569386763 2 [2, 3, 7, 19, 47, 47, 127, 8574133] = true := by
    decide
  exact Lucas.prime_of_passes passes (by norm_num)

theorem prime_31757755568855353 : Nat.Prime 31757755568855353 := by
  have passes : Lucas.passes 31757755568855353 10
      [2, 2, 2, 3, 31, 107, 223, 4153, 430751] = true := by
    decide
  exact Lucas.prime_of_passes passes (by norm_num)

theorem prime_75445702479781427272750846543864801 :
    Nat.Prime 75445702479781427272750846543864801 := by
  have passes : Lucas.passes 75445702479781427272750846543864801 7
      [2, 2, 2, 2, 2, 3, 3, 5, 5, 75707, 72106336199, 1919519569386763] = true := by
    decide
  refine Lucas.prime_of_passes passes ?_
  simp only [List.forall_mem_cons, prime_72106336199, prime_1919519569386763]
  norm_num

/-- The greatest factor of `p - 1`. -/
def greatestFactor : Nat :=
  74058212732561358302231226437062788676166966415465897661863160754340907

theorem prime_greatestFactor : greatestFactor.Prime := by
  have passes : Lucas.passes greatestFactor 2
      [2, 3, 353, 57467, 132049, 1923133, 31757755568855353,
        75445702479781427272750846543864801] = true := by
    decide
  refine Lucas.prime_of_passes passes ?_
  simp only [List.forall_mem_cons, prime_31757755568855353,
    prime_75445702479781427272750846543864801]
  norm_num

/-- The number `2 ^ 255 - 19` is prime. -/
theorem prime_prime : prime.Prime := by
  have passes : Lucas.passes prime 2 [2, 2, 3, 65147, greatestFactor] = true := by decide
  refine Lucas.prime_of_passes passes ?_
  simp only [List.forall_mem_cons, prime_greatestFactor]
  norm_num

end Ed25519

end Licensing
