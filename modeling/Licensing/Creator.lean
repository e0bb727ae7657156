import Licensing.SignedLicense

/-!
# Creators of licenses

A creator signs licenses with the key of the issuer. It asks for the password and the kept key anew
for each license.

## Main definitions

* `Creator` — what a creator asks for, and the password of the licenses.
* `Creator.sign` — the signed license of a license.
-/

namespace Licensing

/-- What signs the licenses of an issuer. -/
structure Creator where
  /-- What is given as the password of the key. -/
  keyPassword : Except Error Bytes
  /-- What is given as the key, encrypted with its password. -/
  encryptedKey : Except Error Bytes
  /-- The password of the licenses. -/
  passphrase : String

namespace Creator

/-- The signing key. -/
def key (c : Creator) : Except Error PrivateKey := do
  let password ← c.keyPassword
  let encrypted ← c.encryptedKey
  if encrypted.isEmpty then throw (.keyNotFound "private key data is empty")
  PrivateKey.load encrypted password

/-- The signed license of a license. -/
def sign (c : Creator) (entropy : Entropy) (l : License) : Except Error SignedLicense := do
  let key ← c.key
  l.seal entropy key (Bytes.ofText c.passphrase)

/-- A creator as diagnostics show it. -/
def describe (_ : Creator) : String :=
  Text.record "LicenseCreator" false []

end Creator

end Licensing
