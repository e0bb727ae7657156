import Licensing.Cipher.Aead
import Licensing.Error
import Licensing.Hash.Argon2

/-!
# Encryption with a password

A key is derived from a password and a salt, and the plaintext is sealed under it. The ciphertext is
a mark, the salt, the nonce and what was sealed.

## Main definitions

* `Entropy` — the salt and the nonce of one encryption.
* `PasswordCipher.encrypt`, `PasswordCipher.decrypt` — from plaintexts to ciphertexts and back.

## Implementation notes

The salt and the nonce are given by the caller, who draws them anew for each encryption.
-/

namespace Licensing

/-- The random bytes of one encryption. -/
structure Entropy where
  salt : Bytes
  nonce : Bytes
  length_salt : salt.length = 16
  length_nonce : nonce.length = 12
  deriving DecidableEq, Repr

namespace PasswordCipher

/-- The bytes with which a ciphertext starts. -/
def magic : Bytes :=
  [0x4c, 0x57, 0x45, 0x31]

/-- The cost of deriving a key. -/
def cost : Argon2.Cost :=
  ⟨19 * 1024, 2, 32⟩

/-- The length of what stands before the sealed plaintext. -/
def headerLength : Nat :=
  4 + 16 + 12

/-- The key of a password and a salt. -/
def deriveKey (password salt : Bytes) : Except Error Bytes :=
  if password.length < 0x100000000 then .ok (Argon2.derive cost password salt)
  else .error (.decryptionFailure .passwordTooLong)

/-- The ciphertext of a plaintext. -/
def encrypt (entropy : Entropy) (password plaintext : Bytes) : Except Error Bytes := do
  let key ← deriveKey password entropy.salt
  match Aead.seal? key entropy.nonce plaintext with
  | some sealed => return magic ++ entropy.salt ++ entropy.nonce ++ sealed
  | none => throw (.algorithmUnsupported .encryption)

/-- The plaintext of a ciphertext. -/
def decrypt (password ciphertext : Bytes) : Except Error Bytes := do
  if ciphertext.length < headerLength + Aead.tagLength then
    throw (.decryptionFailure (.tooShort ciphertext.length))
  if ciphertext.take 4 ≠ magic then throw (.decryptionFailure .missingMagic)
  let salt := (ciphertext.drop 4).take 16
  let nonce := (ciphertext.drop 20).take 12
  let key ← deriveKey password salt
  match Aead.open? key nonce (ciphertext.drop headerLength) with
  | some plaintext => return plaintext
  | none => throw (.decryptionFailure .refused)

end PasswordCipher

end Licensing
