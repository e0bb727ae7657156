import Licensing.Key.Loading
import Licensing.Proofs.Cipher.Password
import Licensing.Proofs.Key.Basic

/-!
# A key that loads can be used

A key is looked into when it is loaded, and again each time it is used. Both find the same, so that
a key that loads does not fail later: it signs all data, or says of every signature whether it is
right. What could not be used does not load. The keys that are kept do load, and are then what they
were.

## Main results

* `PrivateKey.load_eq_ok_iff`, `PublicKey.load_eq_ok_iff` — which keys load.
* `PrivateKey.load_eq_error_iff`, `PublicKey.load_eq_error_iff` — what becomes of everything else.
* `PrivateKey.load_iff_signs`, `PublicKey.load_iff_verifies` — the keys that load are those that can
  be used.
* `PrivateKey.exists_encrypt_iff` — which passwords a signing key can be kept with.
* `PrivateKey.load_of_encrypt` — a signing key that is kept loads with its password.
* `loaded_keys_are_usable` — both kinds of keys, what loads and what was kept.
-/

namespace Licensing

namespace PrivateKey

/-! ### Signing keys -/

section Loading

variable {blob password : Bytes} {k : PrivateKey}

/-- What decrypts loads if it is an encoding that holds a seed. -/
theorem load_of_decrypt {der : Bytes} (decrypted : PasswordCipher.decrypt password blob = .ok der) :
    load blob password =
      if (decode? der).isSome then .ok ⟨keyAlgorithm, der⟩
      else .error (.inappropriateKey .privateKey) := by
  rw [load, decrypted, ok_bind]
  rcases decoded : decode? der with _ | seed
  · have fails := seed_of_decode?_eq_none (k := ⟨keyAlgorithm, der⟩) rfl decoded
    dsimp only
    rw [fails]
    rfl
  · have holds := seed_of_decode?_eq_some (k := ⟨keyAlgorithm, der⟩) rfl decoded
    dsimp only
    rw [holds]
    rfl

/-- A signing key loads if its kept form decrypts to an encoding that holds a seed. -/
theorem load_eq_ok_iff :
    load blob password = .ok k ↔
      PasswordCipher.decrypt password blob = .ok k.der ∧ k.algorithm = keyAlgorithm ∧
        (decode? k.der).isSome := by
  constructor
  · intro loaded
    obtain ⟨der, decrypted, -⟩ := bind_eq_ok_iff.mp loaded
    rw [load_of_decrypt decrypted] at loaded
    split_ifs at loaded with holds
    cases loaded
    exact ⟨decrypted, rfl, holds⟩
  · rintro ⟨decrypted, known, holds⟩
    rw [load_of_decrypt decrypted, if_pos holds, ← known]

/-- What does not load does not decrypt, or is then not the encoding of a signing key. -/
theorem load_eq_error_iff {e : Error} :
    load blob password = .error e ↔
      PasswordCipher.decrypt password blob = .error e ∨
        ∃ der, PasswordCipher.decrypt password blob = .ok der ∧ decode? der = none ∧
          e = .inappropriateKey .privateKey := by
  rcases decrypted : PasswordCipher.decrypt password blob with fault | der
  · simp [load, decrypted, error_bind]
  · rw [load_of_decrypt decrypted]
    rcases decoded : decode? der with _ | seed
    · simp [decoded, eq_comm]
    · simp [decoded]

/-- The signing keys that load are those that sign all data. -/
theorem load_iff_signs :
    load blob password = .ok k ↔
      PasswordCipher.decrypt password blob = .ok k.der ∧ k.algorithm = keyAlgorithm ∧
        ∀ data, ∃ signature, k.sign data = .ok signature ∧ signature.length = 64 := by
  rw [load_eq_ok_iff]
  refine and_congr_right fun _ => and_congr_right fun known => ?_
  rcases decoded : decode? k.der with _ | seed
  · simp [sign_of_decode?_eq_none known decoded]
  · simp [sign_of_decode?_eq_some known decoded, Ed25519.length_sign]

end Loading

/-! ### Kept signing keys -/

section Kept

variable {entropy : Entropy} {seed password kept : Bytes}

/-- The signing key of a seed can be kept unless the password is too long, with any salt and any
nonce. -/
theorem exists_encrypt_iff (length : seed.length = 32) :
    (∃ kept, encrypt entropy seed password = .ok kept) ↔ password.length < 0x100000000 := by
  have fits : Aead.Fits (ofSeed seed).der := by
    rw [Aead.Fits, ofSeed, length_encoding length (Ed25519.length_publicKey seed)]
    decide
  rw [← and_iff_left fits (a := password.length < 0x100000000)]
  exact PasswordCipher.exists_encrypt_iff

/-- A password that is too long is refused before anything is kept. -/
theorem encrypt_of_long (long : 0x100000000 ≤ password.length) :
    encrypt entropy seed password = .error (.decryptionFailure .passwordTooLong) := by
  rw [encrypt, PasswordCipher.encrypt, PasswordCipher.deriveKey, if_neg (Nat.not_lt.mpr long),
    error_bind]

/-- A signing key that is kept loads with its password. -/
theorem load_of_encrypt (length : seed.length = 32)
    (h : encrypt entropy seed password = .ok kept) : load kept password = .ok (ofSeed seed) := by
  have decrypted : PasswordCipher.decrypt password kept = .ok (ofSeed seed).der :=
    PasswordCipher.decrypt_eq_ok_iff.mpr ⟨entropy, h⟩
  exact load_eq_ok_iff.mpr ⟨decrypted, rfl, Option.isSome_of_eq_some (decode?_ofSeed length)⟩

end Kept

end PrivateKey

/-! ### Verifying keys -/

namespace PublicKey

variable {der : Bytes} {k : PublicKey}

theorem load_of_holds {key : Bytes} (holds : Holds ⟨keyAlgorithm, der⟩ key) :
    load der = .ok ⟨keyAlgorithm, der⟩ := by
  rw [load, bytes_of_holds rfl holds, ok_bind, pure_eq_ok]

theorem load_of_not_holds (none : ∀ key, ¬ Holds ⟨keyAlgorithm, der⟩ key) :
    load der = .error (.inappropriateKey .publicKey) := by
  rw [load, bytes_of_not_holds rfl none, error_bind]

/-- The verifying key of a seed loads from its encoding. -/
theorem load_ofSeed (seed : Bytes) : load (ofSeed seed).der = .ok (ofSeed seed) :=
  load_of_holds (holds_ofSeed seed)

/-- An encoding loads if it is that of bytes that stand for a point. -/
theorem load_eq_ok_iff : load der = .ok k ↔ k = ⟨keyAlgorithm, der⟩ ∧ ∃ key, k.Holds key := by
  constructor
  · intro loaded
    by_cases usable : ∃ key, Holds ⟨keyAlgorithm, der⟩ key
    · obtain ⟨key, holds⟩ := usable
      rw [load_of_holds holds] at loaded
      cases loaded
      exact ⟨rfl, key, holds⟩
    · rw [load_of_not_holds (not_exists.mp usable)] at loaded
      cases loaded
  · rintro ⟨rfl, key, holds⟩
    exact load_of_holds holds

/-- What does not load is not the encoding of a verifying key. -/
theorem load_eq_error_iff {e : Error} :
    load der = .error e ↔
      e = .inappropriateKey .publicKey ∧ ∀ key, ¬ Holds ⟨keyAlgorithm, der⟩ key := by
  constructor
  · intro fails
    by_cases usable : ∃ key, Holds ⟨keyAlgorithm, der⟩ key
    · obtain ⟨key, holds⟩ := usable
      rw [load_of_holds holds] at fails
      cases fails
    · rw [load_of_not_holds (not_exists.mp usable)] at fails
      cases fails
      exact ⟨rfl, not_exists.mp usable⟩
  · rintro ⟨rfl, none⟩
    exact load_of_not_holds none

/-- The verifying keys that load are those that say of every signature whether it is right. -/
theorem load_iff_verifies :
    load der = .ok k ↔ k = ⟨keyAlgorithm, der⟩ ∧ ∀ data signature,
      (∀ cause, k.verify data signature ≠ .error (.algorithmUnsupported cause)) ∧
        ∀ kind, k.verify data signature ≠ .error (.inappropriateKey kind) := by
  rw [load_eq_ok_iff]
  refine and_congr_right ?_
  rintro rfl
  constructor
  · rintro ⟨key, holds⟩ data signature
    rw [verify_of_holds rfl holds]
    split_ifs <;> simp
  · intro verifies
    by_contra none
    exact (verifies [] []).2 .publicKey (verify_of_not_holds rfl (not_exists.mp none) [] [])

end PublicKey

/-! ### Both kinds of keys -/

/-- **A key that loads can be used, and what was kept loads.** A signing key loads if and only if it
is what the kept form decrypts to and signs all data, with 64 bytes; everything else fails to
decrypt, or is not the encoding of a signing key. A verifying key loads if and only if it never
finds fault with itself when it verifies; everything else is not the encoding of a verifying key.
The signing key of a seed can be kept with every password that is not too long, and then loads with
the password as it was; the encoding of its verifying key loads as it was. -/
theorem loaded_keys_are_usable :
    (∀ blob password k, PrivateKey.load blob password = .ok k ↔
      PasswordCipher.decrypt password blob = .ok k.der ∧ k.algorithm = "Ed25519" ∧
        ∀ data, ∃ signature, k.sign data = .ok signature ∧ signature.length = 64) ∧
    (∀ blob password, (∀ k, PrivateKey.load blob password ≠ .ok k) →
      (∃ fault, PrivateKey.load blob password = .error (.decryptionFailure fault)) ∨
        PrivateKey.load blob password = .error (.inappropriateKey .privateKey)) ∧
    (∀ der k, PublicKey.load der = .ok k ↔ k = ⟨"Ed25519", der⟩ ∧ ∀ data signature,
      (∀ cause, k.verify data signature ≠ .error (.algorithmUnsupported cause)) ∧
        ∀ kind, k.verify data signature ≠ .error (.inappropriateKey kind)) ∧
    (∀ der, (∀ k, PublicKey.load der ≠ .ok k) →
      PublicKey.load der = .error (.inappropriateKey .publicKey)) ∧
    ∀ seed : Bytes, seed.length = 32 →
      (∀ entropy password,
        (∃ kept, PrivateKey.encrypt entropy seed password = .ok kept ∧
          PrivateKey.load kept password = .ok ⟨"Ed25519", (PrivateKey.ofSeed seed).der⟩) ∨
        0x100000000 ≤ password.length ∧ PrivateKey.encrypt entropy seed password =
          .error (.decryptionFailure .passwordTooLong)) ∧
      PublicKey.load (PublicKey.ofSeed seed).der =
        .ok ⟨"Ed25519", (PublicKey.ofSeed seed).der⟩ := by
  refine ⟨fun _ _ _ => PrivateKey.load_iff_signs, fun blob password none => ?_,
    fun _ _ => PublicKey.load_iff_verifies, fun der none => ?_, fun seed length =>
    ⟨fun entropy password => ?_, PublicKey.load_ofSeed seed⟩⟩
  · obtain ⟨e, fails⟩ := exists_eq_error_iff.mpr none
    rcases PrivateKey.load_eq_error_iff.mp fails with undecrypted | ⟨_, -, -, rfl⟩
    · obtain ⟨fault, rfl⟩ := PasswordCipher.eq_decryptionFailure_of_decrypt undecrypted
      exact .inl ⟨fault, fails⟩
    · exact .inr fails
  · obtain ⟨e, fails⟩ := exists_eq_error_iff.mpr none
    obtain ⟨rfl, -⟩ := PublicKey.load_eq_error_iff.mp fails
    exact fails
  · by_cases long : 0x100000000 ≤ password.length
    · exact .inr ⟨long, PrivateKey.encrypt_of_long long⟩
    · obtain ⟨kept, h⟩ : ∃ kept, PrivateKey.encrypt entropy seed password = .ok kept :=
        (PrivateKey.exists_encrypt_iff length).mpr (Nat.not_le.mp long)
      exact .inl ⟨kept, h, PrivateKey.load_of_encrypt length h⟩

/-- The keys of a seed of sevens load, the signing key kept with an empty password; no bytes are no
key. -/
theorem loaded_keys_are_usable_sevens :
    let seed : Bytes := List.replicate 32 7
    let entropy : Entropy := ⟨List.replicate 16 0, List.replicate 12 0, rfl, rfl⟩
    seed.length = 32 ∧
      (∃ kept, PrivateKey.encrypt entropy seed [] = .ok kept ∧
        PrivateKey.load kept [] = .ok ⟨"Ed25519", (PrivateKey.ofSeed seed).der⟩) ∧
      PublicKey.load (PublicKey.ofSeed seed).der =
        .ok ⟨"Ed25519", (PublicKey.ofSeed seed).der⟩ ∧
      (∃ fault, PrivateKey.load [] [] = .error (.decryptionFailure fault)) ∧
      PublicKey.load [] = .error (.inappropriateKey .publicKey) := by
  intro seed entropy
  obtain ⟨-, refused, -, refused', kept⟩ := loaded_keys_are_usable
  obtain ⟨kept, loaded⟩ := kept seed rfl
  refine ⟨rfl, (kept entropy []).resolve_right ?_, loaded,
    (refused [] [] nofun).resolve_right nofun, refused' [] nofun⟩
  rintro ⟨long, -⟩
  exact absurd long (by decide)

end Licensing
