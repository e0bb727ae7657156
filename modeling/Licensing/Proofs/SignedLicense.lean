import Licensing.Proofs.Cipher.Password
import Licensing.Proofs.Key.Basic
import Licensing.Proofs.License.BinaryForm
import Licensing.SignedLicense

/-!
# Sealed licenses open

## Main results

* `License.seal_eq_ok_iff`, `SignedLicense.unseal_eq_ok_iff` — what sealing and opening come to.
* `License.exists_seal` — which licenses can be sealed.
* `License.WellFormed.unseal_of_seal_eq_ok` — a well-formed license that is sealed opens.
* `SignedLicense.unseal_of_seal` — a sealed license opens and is the same again.
-/

namespace Licensing

/-- A license is sealed by encrypting its binary form and signing the ciphertext. -/
theorem License.seal_eq_ok_iff {l : License} {entropy : Entropy} {key : PrivateKey}
    {password : Bytes} {s : SignedLicense} :
    l.seal entropy key password = .ok s ↔
      ∃ plaintext, l.toBinary = .ok plaintext ∧
        PasswordCipher.encrypt entropy password plaintext = .ok s.content ∧
          key.sign s.content = .ok s.signature := by
  simp only [License.seal, bind_eq_ok_iff, mapError_eq_ok_iff, pure_eq_ok_iff]
  constructor
  · rintro ⟨plaintext, written, content, encrypted, signature, signed, rfl⟩
    exact ⟨plaintext, written, encrypted, signed⟩
  · rintro ⟨plaintext, written, encrypted, signed⟩
    exact ⟨plaintext, written, s.content, encrypted, s.signature, signed, rfl⟩

/-- A signed license opens if its signature is right and its content decrypts to the binary form of
a license. -/
theorem SignedLicense.unseal_eq_ok_iff {s : SignedLicense} {key : PublicKey} {password : Bytes}
    {l : License} :
    s.unseal key password = .ok l ↔
      key.verify s.content s.signature = .ok () ∧
        ∃ plaintext, PasswordCipher.decrypt password s.content = .ok plaintext ∧
          License.ofBinary plaintext = .ok l := by
  simp only [SignedLicense.unseal, bind_eq_ok_iff, mapError_eq_ok_iff]
  constructor
  · rintro ⟨_, right, plaintext, decrypted, read⟩
    exact ⟨right, plaintext, decrypted, read⟩
  · rintro ⟨right, plaintext, decrypted, read⟩
    exact ⟨(), right, plaintext, decrypted, read⟩

/-- A license with a binary form can be sealed with the signing key of a seed, unless the binary
form or the password is too long. -/
theorem License.exists_seal {l : License} {plaintext password seed : Bytes}
    (written : l.toBinary = .ok plaintext) (fits : Aead.Fits plaintext)
    (short : password.length < 0x100000000) (length : seed.length = 32) (entropy : Entropy) :
    ∃ s, l.seal entropy (PrivateKey.ofSeed seed) password = .ok s := by
  obtain ⟨content, encrypted⟩ := PasswordCipher.exists_encrypt_iff.mpr ⟨short, fits⟩
  exact ⟨⟨content, _⟩,
    seal_eq_ok_iff.mpr ⟨plaintext, written, encrypted, PrivateKey.sign_ofSeed length content⟩⟩

/-- The license with a lasting feature and one that ends can be sealed. -/
theorem License.exists_seal_specimen {password seed : Bytes} (short : password.length < 0x100000000)
    (length : seed.length = 32) (entropy : Entropy) :
    ∃ s, specimen.seal entropy (PrivateKey.ofSeed seed) password = .ok s := by
  obtain ⟨plaintext, written, fits⟩ :
      ∃ plaintext, specimen.toBinary = .ok plaintext ∧ Aead.Fits plaintext :=
    ⟨_, rfl, by decide⟩
  exact exists_seal written fits short length entropy

/-- A well-formed license that is sealed with the signing key of a seed opens with the verifying key
of the seed. -/
theorem License.WellFormed.unseal_of_seal_eq_ok {l : License} (h : l.WellFormed) {seed : Bytes}
    (length : seed.length = 32) {entropy : Entropy} {password : Bytes} {s : SignedLicense}
    (sealed : l.seal entropy (PrivateKey.ofSeed seed) password = .ok s) :
    s.unseal (PublicKey.ofSeed seed) password = .ok l := by
  obtain ⟨plaintext, written, encrypted, signed⟩ := License.seal_eq_ok_iff.mp sealed
  refine SignedLicense.unseal_eq_ok_iff.mpr
    ⟨PublicKey.verify_sign length signed, plaintext, ?_, ?_⟩
  · exact PasswordCipher.decrypt_eq_ok_iff.mpr ⟨entropy, encrypted⟩
  · exact License.ofBinary_eq_ok_iff.mpr ⟨written, h⟩

/-- **Sealing and opening.** A license that is made from settings and sealed with the signing key of
a seed opens with the verifying key of the seed and the same password, whatever the salt and the
nonce, and is the same again. -/
theorem SignedLicense.unseal_of_seal {settings : List Setting} {l : License}
    (made : License.build settings = .ok l) {seed : Bytes} (length : seed.length = 32)
    {entropy : Entropy} {password : Bytes} {s : SignedLicense}
    (sealed : l.seal entropy (PrivateKey.ofSeed seed) password = .ok s) :
    s.unseal (PublicKey.ofSeed seed) password = .ok l :=
  (License.wellFormed_of_build made).unseal_of_seal_eq_ok length sealed

/-- A license that is sealed with the salt and the nonce that are all zeros opens. -/
theorem SignedLicense.unseal_of_seal_specimen :
    let seed : Bytes := List.replicate 32 7
    let password := Bytes.ofText "password"
    let entropy : Entropy := ⟨List.replicate 16 0, List.replicate 12 0, rfl, rfl⟩
    ∃ s, License.specimen.seal entropy (PrivateKey.ofSeed seed) password = .ok s ∧
      s.unseal (PublicKey.ofSeed seed) password = .ok License.specimen := by
  intro seed password entropy
  have length : seed.length = 32 := rfl
  have short : password.length < 0x100000000 := by decide
  obtain ⟨s, sealed⟩ := License.exists_seal_specimen short length entropy
  exact ⟨s, sealed, unseal_of_seal License.build_specimen length sealed⟩

end Licensing
