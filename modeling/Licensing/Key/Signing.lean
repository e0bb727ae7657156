import Licensing.Hash.Sha256
import Licensing.Key.Basic

/-!
# Signed data

Data is hashed, and the hash is signed.

## Main definitions

* `signatureAlgorithm` — the name of a hash and a key algorithm together.
* `PrivateKey.sign` — the signature of data.
* `PublicKey.verify` — fails unless a signature is one of the data.
-/

namespace Licensing

/-- The name of the hash and the algorithm of a key together. -/
def signatureAlgorithm (algorithm : String) : Except Error String :=
  if algorithm = keyAlgorithm then .ok ("SHA256with" ++ algorithm)
  else .error (.algorithmUnsupported (.signature algorithm))

/-- The signature of data. -/
def PrivateKey.sign (k : PrivateKey) (data : Bytes) : Except Error Bytes := do
  let _ ← signatureAlgorithm k.algorithm
  let seed ← k.seed
  return Ed25519.sign seed (Sha256.digest data)

/-- Fails unless a signature is one of the data. -/
def PublicKey.verify (k : PublicKey) (data signature : Bytes) : Except Error Unit := do
  let _ ← signatureAlgorithm k.algorithm
  let key ← k.bytes
  if signature.length ≠ 64 then throw (.corruptSignature signature.length)
  if Ed25519.verify key (Sha256.digest data) signature then return ()
  throw .invalidSignature

end Licensing
