import Licensing.Ed25519.Signature
import Licensing.Proofs.Ed25519.Point

/-!
# Signatures are right for what they sign

## Main results

* `Ed25519.order_nsmul_basePoint` — the order of the base point.
* `Ed25519.verify_sign` — the signature of a message is right for it under the key of the seed.
-/

namespace Licensing.Ed25519

open Ed25519.Field (residue residue_eq_iff)

set_option maxRecDepth 20000 in
/-- The multiple of the base point by the order is computed to be the neutral point. -/
theorem order_nsmul_basePoint : order • basePoint = 0 := by
  have computed : (Point.base.smul order).X = 0 ∧
      (Point.base.smul order).Y = (Point.base.smul order).Z := by
    decide
  have h : (Point.base.smul order).Represents (order • basePoint) :=
    Point.represents_base.smul (by decide)
  have hx := h.X_eq
  have hy := h.Y_eq
  rw [computed.1, Field.residue_zero, eq_comm, mul_eq_zero] at hx
  rw [computed.2, eq_comm, mul_eq_right₀ h.nonzero] at hy
  exact Edwards.Point.ext (hx.resolve_right h.nonzero) hy

theorem mod_order_nsmul_basePoint (n : Nat) : (n % order) • basePoint = n • basePoint := by
  conv_rhs => rw [← Nat.div_add_mod n order, add_nsmul, mul_comm, mul_nsmul',
    order_nsmul_basePoint, nsmul_zero, zero_add]

theorem order_lt : order < 2 ^ 256 := by
  decide

theorem secret_lt (seed : Bytes) : secret seed < 2 ^ 256 := by
  have limit : Nat.pow 2 254 + Nat.pow 2 254 < 2 ^ 256 := by decide
  have positive : 0 < Nat.pow 2 254 := by decide
  have low := Nat.mod_lt (Bytes.ofLittleEndian ((Sha512.digest seed).take 32)) positive
  have rounded := Nat.div_mul_le_self
    (Bytes.ofLittleEndian ((Sha512.digest seed).take 32) % Nat.pow 2 254) 8
  rw [secret]
  omega

theorem challenge_lt (message : Bytes) : challenge message < order :=
  Nat.mod_lt _ (by decide)

/-- The verifying key of a seed stands for a multiple of the base point. -/
theorem exists_decompress?_publicKey (seed : Bytes) :
    ∃ A, Point.decompress? (publicKey seed) = some A ∧ A.Represents (secret seed • basePoint) :=
  (Point.represents_base.smul (secret_lt seed)).decompress?_compress

/-- A signature that is put together from a point and a number below the order is right if the
multiple by the number, less the challenge times the key, is written as the point. -/
theorem verify_append_iff {key message R : Bytes} {S : Nat} {A : Point} (length : R.length = 32)
    (small : S < order) (read : Point.decompress? key = some A) :
    verify key message (R ++ Bytes.littleEndian 32 S) = true ↔
      ((Point.base.smul S).add (A.neg.smul (challenge (R ++ key ++ message)))).compress = R := by
  have number : Bytes.ofLittleEndian (Bytes.littleEndian 32 S) = S := by
    rw [Bytes.ofLittleEndian_littleEndian, Nat.mod_eq_of_lt]
    exact small.trans (order_lt.trans_le (by decide))
  unfold verify
  rw [List.take_left' length, List.drop_left' length, number, read]
  rw [Bool.and_eq_true, decide_eq_true_iff, beq_iff_eq, and_iff_right small]

/-- The signature of a message is right for it under the verifying key of the seed. -/
theorem verify_sign (seed message : Bytes) :
    verify (publicKey seed) message (sign seed message) = true := by
  obtain ⟨A, read, hA⟩ := exists_decompress?_publicKey seed
  unfold sign
  extract_lets nonce R k
  have small : (nonce + k * secret seed) % order < order := Nat.mod_lt _ (by decide)
  have hR : (Point.base.smul nonce).Represents (nonce • basePoint) :=
    Point.represents_base.smul ((challenge_lt _).trans order_lt)
  -- `S B - k A = (r + k a) B - k (a B) = r B`
  have sum : ((nonce + k * secret seed) % order) • basePoint + k • -(secret seed • basePoint) =
      nonce • basePoint := by
    rw [mod_order_nsmul_basePoint, add_nsmul, mul_comm, mul_nsmul, neg_nsmul, add_neg_cancel_right]
  have hS := (Point.represents_base.smul (small.trans order_lt)).add
    (hA.neg.smul ((challenge_lt (R ++ publicKey seed ++ message)).trans order_lt))
  rw [sum] at hS
  exact (verify_append_iff (length_compress _) small read).mpr (hS.compress_eq hR)

end Licensing.Ed25519
