import Licensing.Proofs.SignedLicense

/-!
# The stages of opening a signed license

A signed license is opened in stages: the algorithm of the key, its encoding, the length of the
signature, the signature, the decryption, and the binary form of the license. The first stage that
fails gives the error, and later stages have no say in it. The password comes in with the
decryption only.

## Main definitions

* `SignedLicense.IsSignedFor` — the stages before the decryption are passed.
* `SignedLicense.Outcome` — the outcomes of opening, one for each stage and one for a license.

## Main results

* `SignedLicense.outcome_unseal` — opening ends in one of the outcomes.
* `SignedLicense.unseal_eq_iff` — opening has a result if and only if it is the outcome.
* `SignedLicense.unseal_fails_at_first_stage` — which errors there are, and what each of them says.
-/

namespace Licensing

namespace SignedLicense

/-- The signature has 64 bytes and is right for the hash of the content under a key that can be
used. -/
def IsSignedFor (s : SignedLicense) (k : PublicKey) : Prop :=
  k.algorithm = keyAlgorithm ∧ ∃ key, k.Holds key ∧ s.signature.length = 64 ∧
    Ed25519.verify key (Sha256.digest s.content) s.signature = true

/-- What becomes of a signed license, by the first stage that fails. -/
inductive Outcome (s : SignedLicense) (k : PublicKey) (password : Bytes) :
    Except Error License → Prop
  | algorithm (unknown : k.algorithm ≠ keyAlgorithm) :
      Outcome s k password (.error (.algorithmUnsupported (.signature k.algorithm)))
  | encoding (known : k.algorithm = keyAlgorithm) (none : ∀ key, ¬ k.Holds key) :
      Outcome s k password (.error (.inappropriateKey .publicKey))
  | length {key : Bytes} (known : k.algorithm = keyAlgorithm) (holds : k.Holds key)
      (length : s.signature.length ≠ 64) :
      Outcome s k password (.error (.corruptSignature s.signature.length))
  | signature {key : Bytes} (known : k.algorithm = keyAlgorithm) (holds : k.Holds key)
      (length : s.signature.length = 64)
      (wrong : Ed25519.verify key (Sha256.digest s.content) s.signature = false) :
      Outcome s k password (.error .invalidSignature)
  | decryption {fault : DecryptionFault} (signed : s.IsSignedFor k)
      (refused : PasswordCipher.decrypt password s.content = .error (.decryptionFailure fault)) :
      Outcome s k password (.error (.decryptionFailure fault))
  | form {plaintext : Bytes} {fault : FormatFault} (signed : s.IsSignedFor k)
      (decrypted : PasswordCipher.decrypt password s.content = .ok plaintext)
      (refused : License.ofBinary plaintext = .error fault) :
      Outcome s k password (.error (.format fault))
  | license {plaintext : Bytes} {l : License} (signed : s.IsSignedFor k)
      (decrypted : PasswordCipher.decrypt password s.content = .ok plaintext)
      (read : License.ofBinary plaintext = .ok l) :
      Outcome s k password (.ok l)

variable {s : SignedLicense} {k : PublicKey} {password : Bytes}

theorem IsSignedFor.verify (h : s.IsSignedFor k) : k.verify s.content s.signature = .ok () :=
  PublicKey.verify_eq_ok_iff.mpr h

/-- Once the signature is taken, the decryption and the binary form decide. -/
theorem IsSignedFor.outcome_unseal (signed : s.IsSignedFor k) (password : Bytes) :
    s.Outcome k password (s.unseal k password) := by
  rw [SignedLicense.unseal, signed.verify, ok_bind]
  rcases decrypted : PasswordCipher.decrypt password s.content with e | plaintext
  · obtain ⟨fault, rfl⟩ := PasswordCipher.eq_decryptionFailure_of_decrypt decrypted
    exact .decryption signed decrypted
  · rw [ok_bind]
    rcases read : License.ofBinary plaintext with fault | l
    · exact .form signed decrypted read
    · exact .license signed decrypted read

/-- Opening ends in one of the outcomes. -/
theorem outcome_unseal (s : SignedLicense) (k : PublicKey) (password : Bytes) :
    s.Outcome k password (s.unseal k password) := by
  by_cases known : k.algorithm = keyAlgorithm
  · by_cases usable : ∃ key, k.Holds key
    · obtain ⟨key, holds⟩ := usable
      by_cases length : s.signature.length = 64
      · rcases right : Ed25519.verify key (Sha256.digest s.content) s.signature with _ | _
        · rw [SignedLicense.unseal, PublicKey.verify_of_holds known holds,
            if_neg (not_not_intro length), right, if_neg Bool.false_ne_true, error_bind]
          exact .signature known holds length right
        · exact IsSignedFor.outcome_unseal ⟨known, key, holds, length, right⟩ password
      · rw [SignedLicense.unseal, PublicKey.verify_of_holds known holds, if_pos length, error_bind]
        exact .length known holds length
    · have none := not_exists.mp usable
      rw [SignedLicense.unseal, PublicKey.verify_of_not_holds known none, error_bind]
      exact .encoding known none
  · rw [SignedLicense.unseal, PublicKey.verify_of_unknown known, error_bind]
    exact .algorithm known

/-- The outcome is the only one. -/
theorem Outcome.unseal_eq {r : Except Error License} (h : s.Outcome k password r) :
    s.unseal k password = r := by
  rw [SignedLicense.unseal]
  cases h with
  | algorithm unknown => rw [PublicKey.verify_of_unknown unknown, error_bind]
  | encoding known none => rw [PublicKey.verify_of_not_holds known none, error_bind]
  | length known holds length =>
    rw [PublicKey.verify_of_holds known holds, if_pos length, error_bind]
  | signature known holds length wrong =>
    rw [PublicKey.verify_of_holds known holds, if_neg (not_not_intro length), wrong,
      if_neg Bool.false_ne_true, error_bind]
  | decryption signed refused => rw [signed.verify, ok_bind, refused, error_bind]
  | form signed decrypted refused =>
    rw [signed.verify, ok_bind, decrypted, ok_bind, refused, mapError_error]
  | license signed decrypted read =>
    rw [signed.verify, ok_bind, decrypted, ok_bind, mapError_eq_ok_iff]
    exact read

/-- Opening has a result if and only if it is the outcome. -/
theorem unseal_eq_iff {r : Except Error License} :
    s.unseal k password = r ↔ s.Outcome k password r :=
  ⟨fun h => h ▸ outcome_unseal s k password, Outcome.unseal_eq⟩

/-! ### The first failing stage -/

theorem unseal_eq_algorithmUnsupported_iff :
    s.unseal k password = .error (.algorithmUnsupported (.signature k.algorithm)) ↔
      k.algorithm ≠ keyAlgorithm := by
  rw [unseal_eq_iff]
  constructor
  · rintro ⟨unknown⟩
    exact unknown
  · exact .algorithm

theorem unseal_eq_inappropriateKey_iff :
    s.unseal k password = .error (.inappropriateKey .publicKey) ↔
      k.algorithm = keyAlgorithm ∧ ∀ key, ¬ k.Holds key := by
  rw [unseal_eq_iff]
  constructor
  · intro h
    cases h with
    | encoding known none => exact ⟨known, none⟩
  · rintro ⟨known, none⟩
    exact .encoding known none

theorem unseal_eq_corruptSignature_iff :
    s.unseal k password = .error (.corruptSignature s.signature.length) ↔
      k.algorithm = keyAlgorithm ∧ ∃ key, k.Holds key ∧ s.signature.length ≠ 64 := by
  rw [unseal_eq_iff]
  constructor
  · intro h
    cases h with
    | length known holds length => exact ⟨known, _, holds, length⟩
  · rintro ⟨known, key, holds, length⟩
    exact .length known holds length

theorem unseal_eq_invalidSignature_iff :
    s.unseal k password = .error .invalidSignature ↔
      k.algorithm = keyAlgorithm ∧ ∃ key, k.Holds key ∧ s.signature.length = 64 ∧
        Ed25519.verify key (Sha256.digest s.content) s.signature = false := by
  rw [unseal_eq_iff]
  constructor
  · intro h
    cases h with
    | signature known holds length wrong => exact ⟨known, _, holds, length, wrong⟩
  · rintro ⟨known, key, holds, length, wrong⟩
    exact .signature known holds length wrong

theorem unseal_eq_decryptionFailure_iff {fault : DecryptionFault} :
    s.unseal k password = .error (.decryptionFailure fault) ↔
      s.IsSignedFor k ∧
        PasswordCipher.decrypt password s.content = .error (.decryptionFailure fault) := by
  rw [unseal_eq_iff]
  constructor
  · intro h
    cases h with
    | decryption signed refused => exact ⟨signed, refused⟩
  · rintro ⟨signed, refused⟩
    exact .decryption signed refused

theorem unseal_eq_format_iff {fault : FormatFault} :
    s.unseal k password = .error (.format fault) ↔
      s.IsSignedFor k ∧ ∃ plaintext, PasswordCipher.decrypt password s.content = .ok plaintext ∧
        License.ofBinary plaintext = .error fault := by
  rw [unseal_eq_iff]
  constructor
  · intro h
    cases h with
    | form signed decrypted refused => exact ⟨signed, _, decrypted, refused⟩
  · rintro ⟨signed, plaintext, decrypted, refused⟩
    exact .form signed decrypted refused

theorem unseal_eq_ok_iff_isSignedFor {l : License} :
    s.unseal k password = .ok l ↔
      s.IsSignedFor k ∧ ∃ plaintext, PasswordCipher.decrypt password s.content = .ok plaintext ∧
        License.ofBinary plaintext = .ok l := by
  rw [unseal_eq_ok_iff, PublicKey.verify_eq_ok_iff, IsSignedFor]

theorem error_of_unseal {e : Error} (failed : s.unseal k password = .error e) :
    e = .algorithmUnsupported (.signature k.algorithm) ∨ e = .inappropriateKey .publicKey ∨
      e = .corruptSignature s.signature.length ∨ e = .invalidSignature ∨
      (∃ fault, e = .decryptionFailure fault) ∨ ∃ fault, e = .format fault := by
  cases unseal_eq_iff.mp failed <;> simp

/-- The password has no say in what becomes of a license that is not signed for the key. -/
theorem unseal_eq_of_not_isSignedFor (unsigned : ¬ s.IsSignedFor k) (password other : Bytes) :
    s.unseal k password = s.unseal k other := by
  rcases verified : k.verify s.content s.signature with e | _
  · rw [SignedLicense.unseal, SignedLicense.unseal, verified, error_bind, error_bind]
  · exact absurd (PublicKey.verify_eq_ok_iff.mp verified) unsigned

/-- **First failing stage.** For every signed license, every key and every password, whatever their
bytes, each error is the one of the first stage that fails and is there exactly if that stage is the
first; a license is what the plaintext is the binary form of. There are no other errors, and without
a right signature the password does not matter. -/
theorem unseal_fails_at_first_stage (s : SignedLicense) (k : PublicKey) (password : Bytes) :
    (s.unseal k password = .error (.algorithmUnsupported (.signature k.algorithm)) ↔
      k.algorithm ≠ keyAlgorithm) ∧
    (s.unseal k password = .error (.inappropriateKey .publicKey) ↔
      k.algorithm = keyAlgorithm ∧ ∀ key, ¬ k.Holds key) ∧
    (s.unseal k password = .error (.corruptSignature s.signature.length) ↔
      k.algorithm = keyAlgorithm ∧ ∃ key, k.Holds key ∧ s.signature.length ≠ 64) ∧
    (s.unseal k password = .error .invalidSignature ↔
      k.algorithm = keyAlgorithm ∧ ∃ key, k.Holds key ∧ s.signature.length = 64 ∧
        Ed25519.verify key (Sha256.digest s.content) s.signature = false) ∧
    (∀ fault, s.unseal k password = .error (.decryptionFailure fault) ↔
      s.IsSignedFor k ∧
        PasswordCipher.decrypt password s.content = .error (.decryptionFailure fault)) ∧
    (∀ e, PasswordCipher.decrypt password s.content = .error e →
      ∃ fault, e = .decryptionFailure fault) ∧
    (∀ fault, s.unseal k password = .error (.format fault) ↔
      s.IsSignedFor k ∧ ∃ plaintext, PasswordCipher.decrypt password s.content = .ok plaintext ∧
        License.ofBinary plaintext = .error fault) ∧
    (∀ l, s.unseal k password = .ok l ↔
      s.IsSignedFor k ∧ ∃ plaintext, PasswordCipher.decrypt password s.content = .ok plaintext ∧
        License.ofBinary plaintext = .ok l) ∧
    (∀ e, s.unseal k password = .error e →
      e = .algorithmUnsupported (.signature k.algorithm) ∨ e = .inappropriateKey .publicKey ∨
        e = .corruptSignature s.signature.length ∨ e = .invalidSignature ∨
        (∃ fault, e = .decryptionFailure fault) ∨ ∃ fault, e = .format fault) ∧
    (¬ s.IsSignedFor k → ∀ other, s.unseal k other = s.unseal k password) := by
  refine ⟨unseal_eq_algorithmUnsupported_iff, unseal_eq_inappropriateKey_iff,
    unseal_eq_corruptSignature_iff, unseal_eq_invalidSignature_iff,
    fun _ => unseal_eq_decryptionFailure_iff,
    fun _ => PasswordCipher.eq_decryptionFailure_of_decrypt, fun _ => unseal_eq_format_iff,
    fun _ => unseal_eq_ok_iff_isSignedFor, fun _ => error_of_unseal, ?_⟩
  intro unsigned other
  exact unseal_eq_of_not_isSignedFor unsigned other password

/-- A signature of one byte is corrupt, with any password. -/
theorem unseal_fails_at_first_stage_short :
    let k := PublicKey.ofSeed (List.replicate 32 7)
    let s : SignedLicense := ⟨[1, 2, 3], [0]⟩
    s.unseal k (Bytes.ofText "password") = .error (.corruptSignature 1) ∧
      s.unseal k (Bytes.ofText "other") = .error (.corruptSignature 1) := by
  intro k s
  obtain ⟨-, -, corrupt, -, -, -, -, -, -, same⟩ :=
    unseal_fails_at_first_stage s k (Bytes.ofText "password")
  have failed : s.unseal k (Bytes.ofText "password") = .error (.corruptSignature 1) :=
    corrupt.mpr ⟨rfl, _, PublicKey.holds_ofSeed _, by decide⟩
  have unsigned : ¬ s.IsSignedFor k := by
    rintro ⟨-, _, -, length, -⟩
    exact absurd length (by decide)
  exact ⟨failed, (same unsigned _).trans failed⟩

end SignedLicense

end Licensing
