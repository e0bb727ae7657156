import Licensing.Ed25519.Point
import Licensing.Hash.Sha512

/-!
# Ed25519 signatures

A signing key is a seed of 32 bytes, whose hash gives a secret multiple of the base point and the
bytes that make nonces. A signature is a point `R` and a number `S` below the order of the base
point; it is right if `S` times the base point, less the challenge times the key, is written as `R`.

## Main definitions

* `Ed25519.publicKey` — the verifying key of a seed.
* `Ed25519.sign` — the signature of a message.
* `Ed25519.verify` — whether a signature of 64 bytes is right for a message.

## Main results

* `Ed25519.length_publicKey`, `Ed25519.length_sign` — the lengths of keys and signatures.

## Implementation notes

The challenge hashes the key as it is written. Keys of small order are taken like all others.
-/

namespace Licensing.Ed25519

/-- The order of the base point. -/
def order : Nat :=
  Nat.pow 2 252 + 27742317777372353535851937790883648493

/-- The secret multiple of a seed: the first half of its hash as a number, the lowest three bits and
the highest cleared, the second highest set. -/
def secret (seed : Bytes) : Nat :=
  let n := Bytes.ofLittleEndian ((Sha512.digest seed).take 32)
  n % Nat.pow 2 254 / 8 * 8 + Nat.pow 2 254

/-- The hash of a byte string as a number below the order. -/
def challenge (message : Bytes) : Nat :=
  Bytes.ofLittleEndian (Sha512.digest message) % order

/-- The verifying key of a seed. -/
def publicKey (seed : Bytes) : Bytes :=
  (Point.base.smul (secret seed)).compress

/-- The signature of a message. -/
def sign (seed message : Bytes) : Bytes :=
  let nonce := challenge ((Sha512.digest seed).drop 32 ++ message)
  let R := (Point.base.smul nonce).compress
  let k := challenge (R ++ publicKey seed ++ message)
  R ++ Bytes.littleEndian 32 ((nonce + k * secret seed) % order)

/-- Whether a signature of 64 bytes is right for a message under a key of 32 bytes. -/
def verify (key message signature : Bytes) : Bool :=
  let R := signature.take 32
  let S := Bytes.ofLittleEndian (signature.drop 32)
  match Point.decompress? key with
  | none => false
  | some A =>
    let k := challenge (R ++ key ++ message)
    decide (S < order) && ((Point.base.smul S).add (A.neg.smul k)).compress == R

@[simp] theorem length_compress (P : Point) : P.compress.length = 32 := by
  simp [Point.compress]

@[simp] theorem length_publicKey (seed : Bytes) : (publicKey seed).length = 32 := by
  simp [publicKey]

@[simp] theorem length_sign (seed message : Bytes) : (sign seed message).length = 64 := by
  simp [sign]

end Licensing.Ed25519
