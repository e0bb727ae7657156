import Licensing.Key.Signing
import Licensing.Proofs.Ed25519.Signature
import Licensing.Proofs.Except
import Licensing.Proofs.Key.Der

/-!
# What keys hold, and what they verify

A verifying key can be used if its algorithm is the one algorithm and its encoding holds a point.
The keys of a seed are read back from their encodings, and what the one signs the other finds to be
right.

## Main definitions

* `PublicKey.Holds` — the encoding of a verifying key holds these bytes.

## Main results

* `PublicKey.decode?_encoding`, `PrivateKey.decode?_encoding` — the encodings are read back.
* `PublicKey.holds_ofSeed`, `PrivateKey.decode?_ofSeed` — what the keys of a seed hold.
* `PrivateKey.sign_of_decode?_eq_some`, `PrivateKey.sign_of_decode?_eq_none` — what a key signs, by
  what its encoding holds.
* `PublicKey.verify_of_unknown`, `PublicKey.verify_of_not_holds`, `PublicKey.verify_of_holds` — what
  a key makes of a signature, first by its algorithm, then by its encoding.
* `PublicKey.verify_sign` — the verifying key of a seed takes what its signing key signs.
-/

namespace Licensing

theorem length_algorithmEncoding : algorithmEncoding.length = 5 := by
  decide

namespace PublicKey

/-- The encoding of a verifying key is that of 32 bytes that stand for a point. -/
structure Holds (k : PublicKey) (key : Bytes) : Prop where
  decoded : decode? k.der = some key
  point : (Ed25519.Point.decompress? key).isSome = true

theorem bytes_of_holds {k : PublicKey} {key : Bytes} (known : k.algorithm = keyAlgorithm)
    (holds : k.Holds key) : k.bytes = .ok key := by
  simp only [bytes, checkAlgorithm, known, holds.decoded, holds.point, if_true, ok_bind, pure_eq_ok]

theorem bytes_of_not_holds {k : PublicKey} (known : k.algorithm = keyAlgorithm)
    (none : ∀ key, ¬ k.Holds key) : k.bytes = .error (.inappropriateKey .publicKey) := by
  rcases decoded : decode? k.der with _ | key
  · simp only [bytes, checkAlgorithm, known, decoded, if_true, ok_bind, throw_eq_error]
  · have point : (Ed25519.Point.decompress? key).isSome = false :=
      Bool.eq_false_iff.mpr fun point => none key ⟨decoded, point⟩
    simp only [bytes, checkAlgorithm, known, decoded, point, if_true, ok_bind, throw_eq_error,
      Bool.false_eq_true, if_false]

/-- A verifying key is read back from its encoding. -/
theorem decode?_encoding {key : Bytes} (length : key.length = 32) :
    decode? (encoding key) = some key := by
  have bits : (0 :: key).length < 128 := by
    rw [List.length_cons]
    omega
  have algorithm : algorithmEncoding.length < 128 := by decide
  have body : (Der.encode Der.sequence algorithmEncoding ++
      Der.encode Der.bitString (0 :: key)).length < 128 := by
    rw [List.length_append, Der.length_encode algorithm, Der.length_encode bits, List.length_cons,
      length, length_algorithmEncoding]
    decide
  simp [decode?, encoding, Der.only?_encode Der.sequence (by decide) body,
    Der.expect?_encode Der.sequence (by decide) algorithm,
    Der.only?_encode Der.bitString (by decide) bits, length]

theorem holds_ofSeed (seed : Bytes) : (ofSeed seed).Holds (Ed25519.publicKey seed) := by
  obtain ⟨A, read, -⟩ := Ed25519.exists_decompress?_publicKey seed
  refine ⟨decode?_encoding (Ed25519.length_publicKey seed), ?_⟩
  rw [read]
  rfl

end PublicKey

namespace PrivateKey

/-- A verifying key is no attribute. -/
theorem skipAttributes_publicKey (limit : Nat) (content : Bytes) :
    skipAttributes (limit + 1) (Der.encode publicKeyTag content) =
      some (Der.encode publicKeyTag content) := by
  simp [skipAttributes, Der.encode, publicKeyTag]

theorem publicKey?_encode {key : Bytes} (length : key.length = 32) :
    publicKey? (Der.encode publicKeyTag (0 :: key)) = some (some key, []) := by
  have short : (0 :: key).length < 128 := by
    rw [List.length_cons]
    omega
  have expected := Der.expect?_encode publicKeyTag (by decide) short []
  rw [List.append_nil, Der.encode, List.cons_append] at expected
  rw [Der.encode, List.cons_append, publicKey?, if_pos rfl, expected]
  simp [length]

theorem length_octetString {seed : Bytes} (length : seed.length = 32) :
    (Der.encode Der.octetString seed).length = 34 := by
  rw [Der.length_encode (by omega), length]

/-- The parts of an encoding make up 81 bytes. -/
theorem length_parts {seed key : Bytes} (hs : seed.length = 32) (hk : key.length = 32) :
    (Der.encode Der.integer [1] ++ Der.encode Der.sequence algorithmEncoding ++
      Der.encode Der.octetString (Der.encode Der.octetString seed) ++
        Der.encode publicKeyTag (0 :: key)).length = 81 := by
  have inner := length_octetString hs
  have bits : (0 :: key).length = 33 := by rw [List.length_cons, hk]
  have algorithm := length_algorithmEncoding
  have version : [(1 : UInt8)].length = 1 := rfl
  have short {content : Bytes} {n : Nat} (h : content.length = n) (hn : n < 128) (tag : UInt8) :
      (Der.encode tag content).length = n + 2 := by
    rw [Der.length_encode (by omega), h]
  simp only [List.length_append]
  rw [short version (by decide), short algorithm (by decide), short inner (by decide),
    short bits (by decide)]

/-- The encoding of a seed has 83 bytes. -/
theorem length_encoding {seed key : Bytes} (hs : seed.length = 32) (hk : key.length = 32) :
    (encoding seed key).length = 83 := by
  have parts := length_parts hs hk
  rw [encoding, Der.length_encode (by omega), parts]

/-- A seed is read back from its encoding with the verifying key of the seed. -/
theorem decode?_encoding {seed : Bytes} (length : seed.length = 32) :
    decode? (encoding seed (Ed25519.publicKey seed)) = some seed := by
  have version : [(1 : UInt8)].length < 128 := by decide
  have algorithm : algorithmEncoding.length < 128 := by decide
  have outer : (Der.encode Der.octetString seed).length < 128 := by
    rw [length_octetString length]
    decide
  have body := length_parts length (Ed25519.length_publicKey seed)
  have header : Der.encode Der.octetString seed = 0x04 :: 0x20 :: seed := by
    rw [Der.encode, length]
    rfl
  rw [encoding, decode?, Der.only?_encode Der.sequence (by decide) (by omega)]
  simp only [List.append_assoc, Option.bind_eq_bind, Option.bind_some,
    Der.expect?_encode Der.integer (by decide) version,
    Der.expect?_encode Der.sequence (by decide) algorithm,
    Der.expect?_encode Der.octetString (by decide) outer, skipAttributes_publicKey,
    publicKey?_encode (Ed25519.length_publicKey seed)]
  rw [header]
  simp [length, areExtensions]

section Use

variable {k : PrivateKey} {seed : Bytes}

/-- A key whose encoding holds a seed can be used. -/
theorem seed_of_decode?_eq_some (known : k.algorithm = keyAlgorithm)
    (decoded : decode? k.der = some seed) : k.seed = .ok seed := by
  rw [PrivateKey.seed, checkAlgorithm, if_pos known, ok_bind, decoded]
  rfl

theorem seed_of_decode?_eq_none (known : k.algorithm = keyAlgorithm)
    (none : decode? k.der = none) : k.seed = .error (.inappropriateKey .privateKey) := by
  rw [PrivateKey.seed, checkAlgorithm, if_pos known, ok_bind, none]
  rfl

/-- It signs the hash of any data. -/
theorem sign_of_decode?_eq_some (known : k.algorithm = keyAlgorithm)
    (decoded : decode? k.der = some seed) (data : Bytes) :
    k.sign data = .ok (Ed25519.sign seed (Sha256.digest data)) := by
  rw [sign, signatureAlgorithm, if_pos known, ok_bind, seed_of_decode?_eq_some known decoded,
    ok_bind, pure_eq_ok]

theorem sign_of_decode?_eq_none (known : k.algorithm = keyAlgorithm)
    (none : decode? k.der = none) (data : Bytes) :
    k.sign data = .error (.inappropriateKey .privateKey) := by
  rw [sign, signatureAlgorithm, if_pos known, ok_bind, seed_of_decode?_eq_none known none,
    error_bind]

theorem decode?_ofSeed (length : seed.length = 32) : decode? (ofSeed seed).der = some seed :=
  decode?_encoding length

/-- The signing key of a seed signs the hash of any data. -/
theorem sign_ofSeed (length : seed.length = 32) (data : Bytes) :
    (ofSeed seed).sign data = .ok (Ed25519.sign seed (Sha256.digest data)) :=
  sign_of_decode?_eq_some rfl (decode?_ofSeed length) data

end Use

end PrivateKey

namespace PublicKey

/-- A key of another algorithm verifies nothing. -/
theorem verify_of_unknown {k : PublicKey} (unknown : k.algorithm ≠ keyAlgorithm)
    (data signature : Bytes) :
    k.verify data signature = .error (.algorithmUnsupported (.signature k.algorithm)) := by
  rw [verify, signatureAlgorithm, if_neg unknown, error_bind]

theorem verify_of_not_holds {k : PublicKey} (known : k.algorithm = keyAlgorithm)
    (none : ∀ key, ¬ k.Holds key) (data signature : Bytes) :
    k.verify data signature = .error (.inappropriateKey .publicKey) := by
  rw [verify, signatureAlgorithm, if_pos known, ok_bind, bytes_of_not_holds known none, error_bind]

/-- A key that can be used looks at the length of a signature first. -/
theorem verify_of_holds {k : PublicKey} {key : Bytes} (known : k.algorithm = keyAlgorithm)
    (holds : k.Holds key) (data signature : Bytes) :
    k.verify data signature =
      if signature.length ≠ 64 then .error (.corruptSignature signature.length)
      else if Ed25519.verify key (Sha256.digest data) signature then .ok ()
      else .error .invalidSignature := by
  rw [verify, signatureAlgorithm, if_pos known, ok_bind, bytes_of_holds known holds, ok_bind]
  split_ifs <;> simp only [error_bind, throw_eq_error, pure_eq_ok]

/-- A signature is taken if and only if it has 64 bytes and is right for the hash of the data under
a key that can be used. -/
theorem verify_eq_ok_iff {k : PublicKey} {data signature : Bytes} :
    k.verify data signature = .ok () ↔
      k.algorithm = keyAlgorithm ∧ ∃ key, k.Holds key ∧ signature.length = 64 ∧
        Ed25519.verify key (Sha256.digest data) signature = true := by
  constructor
  · intro taken
    by_cases known : k.algorithm = keyAlgorithm
    · by_cases usable : ∃ key, k.Holds key
      · obtain ⟨key, holds⟩ := usable
        rw [verify_of_holds known holds] at taken
        split_ifs at taken with short right
        exact ⟨known, key, holds, not_not.mp short, right⟩
      · rw [verify_of_not_holds known (not_exists.mp usable)] at taken
        cases taken
    · rw [verify_of_unknown known] at taken
      cases taken
  · rintro ⟨known, key, holds, long, right⟩
    rw [verify_of_holds known holds, if_neg (not_not_intro long), if_pos right]

/-- The verifying key of a seed takes what its signing key signs. -/
theorem verify_sign {seed data signature : Bytes} (length : seed.length = 32)
    (signed : (PrivateKey.ofSeed seed).sign data = .ok signature) :
    (ofSeed seed).verify data signature = .ok () := by
  rw [PrivateKey.sign_ofSeed length] at signed
  cases signed
  exact verify_eq_ok_iff.mpr ⟨rfl, _, holds_ofSeed seed, Ed25519.length_sign _ _,
    Ed25519.verify_sign _ _⟩

end PublicKey

end Licensing
