import Licensing.Cipher.Password
import Licensing.Proofs.Except

/-!
# What decrypts is what was encrypted

A ciphertext is a sealed plaintext in a frame: the mark, the salt and the nonce stand before it,
each with a fixed length, so that the four parts are read back from where they stand.

## Main definitions

* `PasswordCipher.framed` — a sealed plaintext after the mark, a salt and a nonce.

## Main results

* `PasswordCipher.exists_encrypt_iff` — what can be encrypted.
* `PasswordCipher.decrypt_eq_ok_iff` — a byte string decrypts to a plaintext if and only if the
  plaintext encrypts to it with some salt and some nonce.
* `PasswordCipher.decrypt_of_short`, `PasswordCipher.decrypt_of_unmarked`,
  `PasswordCipher.decrypt_of_marked` — the stages of decryption.
* `PasswordCipher.eq_decryptionFailure_of_decrypt` — how decryption fails.
* `PasswordCipher.decrypt_take`, `PasswordCipher.decrypt_remarked`,
  `PasswordCipher.decrypt_retagged` — a ciphertext is refused once it is cut short, or its mark or
  its tag is replaced.
* `PasswordCipher.decrypt_exactly_encryptions` — all of this for one byte string.
-/

namespace Licensing

/-- What is sealed is the plaintext under the key stream, then its tag. -/
theorem Aead.eq_append_tag_of_seal? {key nonce plaintext sealed : Bytes}
    (h : seal? key nonce plaintext = some sealed) :
    sealed = ChaCha20.apply key nonce 1 plaintext ++
      tag key nonce (ChaCha20.apply key nonce 1 plaintext) := by
  unfold seal? at h
  split at h
  · exact (Option.some.inj h).symm
  · cases h

theorem Aead.length_of_seal? {key nonce plaintext sealed : Bytes}
    (h : seal? key nonce plaintext = some sealed) :
    sealed.length = plaintext.length + tagLength := by
  rw [eq_append_tag_of_seal? h]
  simp

theorem Aead.open?_eq_some_iff {key nonce plaintext sealed : Bytes} :
    open? key nonce sealed = some plaintext ↔ seal? key nonce plaintext = some sealed :=
  ⟨eq_of_open?, open?_seal?⟩

/-- A ciphertext opens with no tag but its own. -/
theorem Aead.open?_append_of_ne {key nonce ciphertext mac : Bytes} (length : mac.length = tagLength)
    (differs : mac ≠ tag key nonce ciphertext) : open? key nonce (ciphertext ++ mac) = none := by
  have body : (ciphertext ++ mac).length - tagLength = ciphertext.length := by
    rw [List.length_append, length, Nat.add_sub_cancel]
  simp only [open?, body, List.take_left, List.drop_left, differs, and_false, if_false]

namespace PasswordCipher

theorem length_magic : magic.length = 4 := rfl

/-- A sealed plaintext after the mark, a salt and a nonce. -/
def framed (entropy : Entropy) (sealed : Bytes) : Bytes :=
  magic ++ entropy.salt ++ entropy.nonce ++ sealed

section Framed

variable (entropy : Entropy) (sealed : Bytes)

theorem length_framed : (framed entropy sealed).length = headerLength + sealed.length := by
  simp only [framed, List.length_append, length_magic, entropy.length_salt, entropy.length_nonce,
    headerLength]

theorem take_framed : (framed entropy sealed).take 4 = magic := by
  rw [framed, List.append_assoc, List.append_assoc, List.take_left' length_magic]

theorem salt_framed : ((framed entropy sealed).drop 4).take 16 = entropy.salt := by
  rw [framed, List.append_assoc, List.append_assoc, List.drop_left' length_magic,
    List.take_left' entropy.length_salt]

theorem nonce_framed : ((framed entropy sealed).drop 20).take 12 = entropy.nonce := by
  rw [framed, List.append_assoc, List.drop_left' (by simp [length_magic, entropy.length_salt]),
    List.take_left' entropy.length_nonce]

theorem drop_framed : (framed entropy sealed).drop headerLength = sealed := by
  refine List.drop_left' ?_
  rw [List.length_append, List.length_append, length_magic, entropy.length_salt,
    entropy.length_nonce, headerLength]

theorem framed_append (rest : Bytes) :
    framed entropy (sealed ++ rest) = framed entropy sealed ++ rest :=
  (List.append_assoc _ _ _).symm

end Framed

/-- What is long enough and starts with the mark is framed. -/
theorem exists_eq_framed {ciphertext : Bytes} (long : headerLength ≤ ciphertext.length)
    (mark : ciphertext.take 4 = magic) : ∃ entropy sealed, ciphertext = framed entropy sealed := by
  have long : 32 ≤ ciphertext.length := long
  refine ⟨⟨(ciphertext.drop 4).take 16, (ciphertext.drop 20).take 12, ?_, ?_⟩,
    ciphertext.drop headerLength, ?_⟩
  · rw [List.length_take, List.length_drop]
    omega
  · rw [List.length_take, List.length_drop]
    omega
  · have salt : ciphertext.drop 4 = (ciphertext.drop 4).take 16 ++ ciphertext.drop 20 := by
      rw [← List.drop_drop (i := 16) (j := 4), List.take_append_drop]
    have nonce : ciphertext.drop 20 =
        (ciphertext.drop 20).take 12 ++ ciphertext.drop headerLength := by
      rw [headerLength, ← List.drop_drop (i := 12) (j := 20), List.take_append_drop]
    rw [framed, List.append_assoc, ← nonce, List.append_assoc, ← salt, ← mark,
      List.take_append_drop]

/-- A plaintext is encrypted if a key can be derived and the plaintext is short enough. -/
theorem encrypt_eq_ok_iff {entropy : Entropy} {password plaintext ciphertext : Bytes} :
    encrypt entropy password plaintext = .ok ciphertext ↔
      ∃ key, deriveKey password entropy.salt = .ok key ∧
        ∃ sealed, Aead.seal? key entropy.nonce plaintext = some sealed ∧
          ciphertext = framed entropy sealed := by
  simp only [encrypt, bind_eq_ok_iff, framed]
  refine exists_congr fun key => and_congr_right fun _ => ?_
  rcases Aead.seal? key entropy.nonce plaintext with _ | sealed
  · simp [throw_eq_ok_iff]
  · simp only [pure_eq_ok_iff, Option.some.injEq, exists_eq_left']
    exact eq_comm

/-- The passwords and plaintexts that can be encrypted, with any salt and any nonce. -/
theorem exists_encrypt_iff {entropy : Entropy} {password plaintext : Bytes} :
    (∃ ciphertext, encrypt entropy password plaintext = .ok ciphertext) ↔
      password.length < 0x100000000 ∧ Aead.Fits plaintext := by
  simp only [encrypt_eq_ok_iff, deriveKey, Aead.seal?]
  constructor
  · rintro ⟨_, key, derived, sealed, hs, -⟩
    split_ifs at derived hs with short fits
    exact ⟨short, fits⟩
  · rintro ⟨short, fits⟩
    exact ⟨_, _, if_pos short, _, if_pos fits, rfl⟩

theorem decrypt_of_short {password ciphertext : Bytes}
    (short : ciphertext.length < headerLength + Aead.tagLength) :
    decrypt password ciphertext = .error (.decryptionFailure (.tooShort ciphertext.length)) := by
  rw [decrypt, if_pos short, throw_eq_error, error_bind]

theorem decrypt_of_unmarked {password ciphertext : Bytes}
    (long : headerLength + Aead.tagLength ≤ ciphertext.length)
    (unmarked : ciphertext.take 4 ≠ magic) :
    decrypt password ciphertext = .error (.decryptionFailure .missingMagic) := by
  rw [decrypt, if_neg (Nat.not_lt.mpr long), if_pos unmarked, throw_eq_error, error_bind]

/-- What is long enough and starts with the mark is opened under the key of the password. -/
theorem decrypt_of_marked {password ciphertext : Bytes}
    (long : headerLength + Aead.tagLength ≤ ciphertext.length)
    (mark : ciphertext.take 4 = magic) :
    decrypt password ciphertext =
      deriveKey password ((ciphertext.drop 4).take 16) >>= fun key =>
        (Aead.open? key ((ciphertext.drop 20).take 12) (ciphertext.drop headerLength)).elim
          (.error (.decryptionFailure .refused)) .ok := by
  rw [decrypt, if_neg (Nat.not_lt.mpr long), if_neg (not_not_intro mark)]
  refine congrArg (bind _) (funext fun key => ?_)
  rcases Aead.open? key ((ciphertext.drop 20).take 12) (ciphertext.drop headerLength) with _ | _ <;>
    rfl

/-- A byte string decrypts if it is long enough, starts with the mark, and the rest after the salt
and the nonce opens. -/
theorem decrypt_eq_ok_iff_open? {password ciphertext plaintext : Bytes} :
    decrypt password ciphertext = .ok plaintext ↔
      headerLength + Aead.tagLength ≤ ciphertext.length ∧ ciphertext.take 4 = magic ∧
        ∃ key, deriveKey password ((ciphertext.drop 4).take 16) = .ok key ∧
          Aead.open? key ((ciphertext.drop 20).take 12) (ciphertext.drop headerLength) =
            some plaintext := by
  by_cases long : headerLength + Aead.tagLength ≤ ciphertext.length
  · by_cases mark : ciphertext.take 4 = magic
    · simp only [decrypt_of_marked long mark, bind_eq_ok_iff, long, mark, true_and]
      refine exists_congr fun key => and_congr_right fun _ => ?_
      rcases Aead.open? key _ _ with _ | opened <;> simp
    · simp [decrypt_of_unmarked long mark, mark]
  · simp [decrypt_of_short (Nat.lt_of_not_le long), long]

/-- What does not decrypt is refused as such: no other error comes out of the key derivation or the
cipher. -/
theorem eq_decryptionFailure_of_decrypt {password ciphertext : Bytes} {e : Error}
    (h : decrypt password ciphertext = .error e) : ∃ fault, e = .decryptionFailure fault := by
  by_cases long : headerLength + Aead.tagLength ≤ ciphertext.length
  · by_cases mark : ciphertext.take 4 = magic
    · rw [decrypt_of_marked long mark, deriveKey] at h
      split_ifs at h
      · rw [ok_bind] at h
        generalize Aead.open? _ _ _ = opened at h
        cases opened with
        | none => exact ⟨_, (Except.error.inj h).symm⟩
        | some plaintext => cases h
      · exact ⟨_, (Except.error.inj h).symm⟩
    · rw [decrypt_of_unmarked long mark] at h
      exact ⟨_, (Except.error.inj h).symm⟩
  · rw [decrypt_of_short (Nat.lt_of_not_le long)] at h
    exact ⟨_, (Except.error.inj h).symm⟩

/-- A byte string decrypts to a plaintext if and only if the plaintext encrypts to it with some salt
and some nonce, which stand after the mark. -/
theorem decrypt_eq_ok_iff {password ciphertext plaintext : Bytes} :
    decrypt password ciphertext = .ok plaintext ↔
      ∃ entropy, encrypt entropy password plaintext = .ok ciphertext := by
  simp only [decrypt_eq_ok_iff_open?, encrypt_eq_ok_iff, Aead.open?_eq_some_iff]
  constructor
  · rintro ⟨long, mark, key, derived, hs⟩
    obtain ⟨entropy, sealed, rfl⟩ := exists_eq_framed (Nat.le_of_add_right_le long) mark
    rw [salt_framed] at derived
    rw [nonce_framed, drop_framed] at hs
    exact ⟨entropy, key, derived, sealed, hs, rfl⟩
  · rintro ⟨entropy, key, derived, sealed, hs, rfl⟩
    refine ⟨?_, take_framed entropy sealed, key, ?_, ?_⟩
    · rw [length_framed, Aead.length_of_seal? hs]
      omega
    · rw [salt_framed]
      exact derived
    · rw [nonce_framed, drop_framed]
      exact hs

/-- The parts of a ciphertext stand where they are looked for, and it is longer than its plaintext
by them. -/
theorem layout_of_encrypt {entropy : Entropy} {password plaintext ciphertext : Bytes}
    (h : encrypt entropy password plaintext = .ok ciphertext) :
    ciphertext.take 4 = magic ∧ (ciphertext.drop 4).take 16 = entropy.salt ∧
      (ciphertext.drop 20).take 12 = entropy.nonce ∧
      ciphertext.length = plaintext.length + 48 := by
  obtain ⟨key, -, sealed, hs, rfl⟩ := encrypt_eq_ok_iff.mp h
  refine ⟨take_framed _ _, salt_framed _ _, nonce_framed _ _, ?_⟩
  rw [length_framed, Aead.length_of_seal? hs, headerLength, Aead.tagLength]
  omega

section Changed

variable {password ciphertext plaintext : Bytes}

theorem le_length_of_decrypt (h : decrypt password ciphertext = .ok plaintext) :
    48 ≤ ciphertext.length :=
  (decrypt_eq_ok_iff_open?.mp h).1

/-- A ciphertext that was cut to less than what an empty plaintext takes is refused. -/
theorem decrypt_take (h : decrypt password ciphertext = .ok plaintext) {n : Nat} (short : n < 48) :
    decrypt password (ciphertext.take n) = .error (.decryptionFailure (.tooShort n)) := by
  have length : (ciphertext.take n).length = n :=
    List.length_take_of_le (Nat.le_trans (Nat.le_of_lt short) (le_length_of_decrypt h))
  rw [decrypt_of_short (lt_of_eq_of_lt length short), length]

/-- A ciphertext is refused once its mark is replaced. -/
theorem decrypt_remarked (h : decrypt password ciphertext = .ok plaintext) {mark : Bytes}
    (length : mark.length = 4) (differs : mark ≠ magic) :
    decrypt password (mark ++ ciphertext.drop 4) = .error (.decryptionFailure .missingMagic) := by
  have long := le_length_of_decrypt h
  refine decrypt_of_unmarked ?_ ?_
  · rw [List.length_append, List.length_drop, length, headerLength, Aead.tagLength]
    omega
  · rwa [List.take_left' length]

/-- A ciphertext is refused once its tag is replaced: the salt, the nonce and what was encrypted
allow one tag only. -/
theorem decrypt_retagged (h : decrypt password ciphertext = .ok plaintext) {mac : Bytes}
    (length : mac.length = 16) (differs : mac ≠ ciphertext.drop (ciphertext.length - 16)) :
    decrypt password (ciphertext.take (ciphertext.length - 16) ++ mac) =
      .error (.decryptionFailure .refused) := by
  obtain ⟨entropy, encrypted⟩ := decrypt_eq_ok_iff.mp h
  obtain ⟨key, derived, sealed, hs, rfl⟩ := encrypt_eq_ok_iff.mp encrypted
  obtain ⟨body, rfl⟩ : ∃ body, sealed = body ++ Aead.tag key entropy.nonce body :=
    ⟨_, Aead.eq_append_tag_of_seal? hs⟩
  have cut : (framed entropy (body ++ Aead.tag key entropy.nonce body)).length - 16 =
      (framed entropy body).length := by
    rw [framed_append, List.length_append, Aead.length_tag, Aead.tagLength, Nat.add_sub_cancel]
  rw [cut, framed_append, List.drop_left] at differs
  rw [cut, framed_append, List.take_left, ← framed_append, decrypt_of_marked ?_ (take_framed _ _),
    salt_framed, nonce_framed, drop_framed, derived, ok_bind,
    Aead.open?_append_of_ne length differs]
  · rfl
  · rw [length_framed, List.length_append, length, Aead.tagLength]
    omega

end Changed

/-- **Decryption accepts exactly what encryption makes.** A byte string decrypts to a plaintext if
and only if the plaintext encrypts to it with some salt and some nonce, which are then the bytes
after the mark; every other byte string is refused, and with no other error. So is a ciphertext that
was cut to less than what an empty plaintext takes, or whose mark or tag was replaced. -/
theorem decrypt_exactly_encryptions (password ciphertext : Bytes) :
    (∀ plaintext, decrypt password ciphertext = .ok plaintext ↔
      ∃ entropy, encrypt entropy password plaintext = .ok ciphertext) ∧
    (∀ entropy plaintext, encrypt entropy password plaintext = .ok ciphertext →
      ciphertext.take 4 = magic ∧ (ciphertext.drop 4).take 16 = entropy.salt ∧
        (ciphertext.drop 20).take 12 = entropy.nonce ∧
        ciphertext.length = plaintext.length + 48) ∧
    ((∀ entropy plaintext, encrypt entropy password plaintext ≠ .ok ciphertext) →
      ∃ fault, decrypt password ciphertext = .error (.decryptionFailure fault)) ∧
    ∀ plaintext, decrypt password ciphertext = .ok plaintext →
      (∀ n < 48,
        decrypt password (ciphertext.take n) = .error (.decryptionFailure (.tooShort n))) ∧
      (∀ mark : Bytes, mark.length = 4 → mark ≠ magic →
        decrypt password (mark ++ ciphertext.drop 4) =
          .error (.decryptionFailure .missingMagic)) ∧
      ∀ mac : Bytes, mac.length = 16 → mac ≠ ciphertext.drop (ciphertext.length - 16) →
        decrypt password (ciphertext.take (ciphertext.length - 16) ++ mac) =
          .error (.decryptionFailure .refused) := by
  refine ⟨fun _ => decrypt_eq_ok_iff, fun _ _ => layout_of_encrypt, fun none => ?_,
    fun plaintext accepted => ⟨fun _ => decrypt_take accepted, fun _ => decrypt_remarked accepted,
      fun _ => decrypt_retagged accepted⟩⟩
  cases h : decrypt password ciphertext with
  | error e =>
    obtain ⟨fault, rfl⟩ := eq_decryptionFailure_of_decrypt h
    exact ⟨fault, rfl⟩
  | ok plaintext =>
    obtain ⟨entropy, encrypted⟩ := decrypt_eq_ok_iff.mp h
    exact absurd encrypted (none entropy plaintext)

/-- Three bytes under an empty password, and the empty byte string, which nothing encrypts to. -/
theorem decrypt_exactly_encryptions_three :
    (∃ ciphertext, decrypt [] ciphertext = .ok [1, 2, 3] ∧ ciphertext.length = 51 ∧
      decrypt [] (ciphertext.take 47) = .error (.decryptionFailure (.tooShort 47)) ∧
      decrypt [] ([0x4c, 0x57, 0x45, 0x32] ++ ciphertext.drop 4) =
        .error (.decryptionFailure .missingMagic) ∧
      decrypt [] (ciphertext.take 35 ++ (ciphertext.drop 35).map (· + 1)) =
        .error (.decryptionFailure .refused)) ∧
    ∃ fault, decrypt [] [] = .error (.decryptionFailure fault) := by
  let entropy : Entropy := ⟨List.replicate 16 0, List.replicate 12 0, rfl, rfl⟩
  refine ⟨?_, ?_⟩
  · obtain ⟨ciphertext, encrypted⟩ : ∃ ciphertext, encrypt entropy [] [1, 2, 3] = .ok ciphertext :=
      exists_encrypt_iff.mpr ⟨by decide, by decide⟩
    obtain ⟨accepts, layout, -, changed⟩ := decrypt_exactly_encryptions [] ciphertext
    have accepted := (accepts [1, 2, 3]).mpr ⟨entropy, encrypted⟩
    have length : ciphertext.length = 51 := (layout entropy _ encrypted).2.2.2
    obtain ⟨cut, remarked, retagged⟩ := changed _ accepted
    rw [length] at retagged
    refine ⟨ciphertext, accepted, length, cut 47 (by decide), remarked _ rfl (by decide),
      retagged _ ?_ ?_⟩
    · rw [List.length_map, List.length_drop, length]
    · have long : (ciphertext.drop 35).length = 16 := by rw [List.length_drop, length]
      generalize ciphertext.drop 35 = mac at long
      cases mac with
      | nil => cases long
      | cons byte rest =>
        intro same
        have : byte + 1 = byte := (List.cons.inj same).1
        simp at this
  · refine (decrypt_exactly_encryptions [] []).2.2.1 fun entropy plaintext encrypted => ?_
    have length := ((decrypt_exactly_encryptions [] []).2.1 entropy plaintext encrypted).2.2.2
    rw [List.length_nil] at length
    omega

end PasswordCipher

end Licensing
