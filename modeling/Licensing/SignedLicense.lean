import Licensing.Key.Loading
import Licensing.Key.Signing
import Licensing.License.BinaryForm

/-!
# Signed licenses

A license is sealed in three steps: its binary form is encrypted with a password, and the ciphertext
is signed. Opening takes the steps back, and starts with the signature.

## Main definitions

* `SignedLicense` — the ciphertext and its signature.
* `License.seal` — the signed license of a license.
* `SignedLicense.unseal` — the license of a signed license.
-/

namespace Licensing

/-- An encrypted license and the signature of the ciphertext. -/
structure SignedLicense where
  content : Bytes
  signature : Bytes
  deriving DecidableEq, Repr

/-- The signed license of a license. -/
def License.seal (l : License) (entropy : Entropy) (key : PrivateKey) (password : Bytes) :
    Except Error SignedLicense := do
  let plaintext ← l.toBinary.mapError .format
  let content ← PasswordCipher.encrypt entropy password plaintext
  let signature ← key.sign content
  return ⟨content, signature⟩

/-- The license of a signed license. -/
def SignedLicense.unseal (s : SignedLicense) (key : PublicKey) (password : Bytes) :
    Except Error License := do
  key.verify s.content s.signature
  let plaintext ← PasswordCipher.decrypt password s.content
  (License.ofBinary plaintext).mapError .format

end Licensing
