import Licensing.Cipher.Password
import Licensing.Key.Basic

/-!
# Keys as they are kept

A signing key is kept encrypted with a password, a verifying key in plain. A key that loads can be
used.

## Main definitions

* `PrivateKey.encrypt`, `PrivateKey.load` — the kept form of a signing key, and the key of it.
* `PublicKey.load` — the verifying key of an encoding.
-/

namespace Licensing

/-- The kept form of the signing key of a seed. -/
def PrivateKey.encrypt (entropy : Entropy) (seed password : Bytes) : Except Error Bytes :=
  PasswordCipher.encrypt entropy password (PrivateKey.ofSeed seed).der

/-- The signing key of its kept form. -/
def PrivateKey.load (encrypted password : Bytes) : Except Error PrivateKey := do
  let der ← PasswordCipher.decrypt password encrypted
  let key : PrivateKey := ⟨keyAlgorithm, der⟩
  let _ ← key.seed
  return key

/-- The verifying key of an encoding. -/
def PublicKey.load (der : Bytes) : Except Error PublicKey := do
  let key : PublicKey := ⟨keyAlgorithm, der⟩
  let _ ← key.bytes
  return key

end Licensing
