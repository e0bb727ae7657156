import Licensing.Ed25519.Signature
import Licensing.Error
import Licensing.Key.Der
import Licensing.Text.Quoted

/-!
# Keys

Signing and verifying keys, in the form in which they are exchanged: the name of an algorithm and an
encoding. Nothing is checked before a key is used.

## Main definitions

* `PrivateKey`, `PublicKey` — a key of either kind.
* `PrivateKey.ofSeed`, `PublicKey.ofSeed` — the keys of a seed.
* `PrivateKey.encoding`, `PublicKey.encoding` — how a seed with its verifying key, and a verifying
  key alone, are encoded.
* `PrivateKey.seed`, `PublicKey.bytes` — what a key holds, if its algorithm and its encoding are
  right.
-/

namespace Licensing

/-- The one algorithm of keys. -/
def keyAlgorithm : String :=
  "Ed25519"

/-- Fails unless the name is that of the one algorithm. -/
def checkAlgorithm (algorithm : String) : Except Error Unit :=
  if algorithm = keyAlgorithm then .ok () else .error (.algorithmUnsupported (.key algorithm))

/-- How encodings name the algorithm. -/
def algorithmEncoding : Bytes :=
  Der.encode Der.objectIdentifier [0x2b, 0x65, 0x70]

/-- A signing key. -/
structure PrivateKey where
  algorithm : String
  der : Bytes
  deriving DecidableEq, Repr

/-- A verifying key. -/
structure PublicKey where
  algorithm : String
  der : Bytes
  deriving DecidableEq, Repr

namespace PublicKey

/-- The encoding of a verifying key: its algorithm, and its bytes as a string of bits that uses all
bits of its bytes. -/
def encoding (key : Bytes) : Bytes :=
  Der.encode Der.sequence
    (Der.encode Der.sequence algorithmEncoding ++ Der.encode Der.bitString (0 :: key))

/-- The verifying key of a seed. -/
def ofSeed (seed : Bytes) : PublicKey :=
  ⟨keyAlgorithm, encoding (Ed25519.publicKey seed)⟩

/-- The 32 bytes that an encoding holds. -/
def decode? (der : Bytes) : Option Bytes := do
  let body ← Der.only? Der.sequence der
  let (algorithm, rest) ← Der.expect? Der.sequence body
  let bits ← Der.only? Der.bitString rest
  match bits with
  | 0 :: key => if algorithm = algorithmEncoding ∧ key.length = 32 then some key else none
  | _ => none

/-- The 32 bytes of a key, which have to stand for a point. -/
def bytes (k : PublicKey) : Except Error Bytes := do
  checkAlgorithm k.algorithm
  match decode? k.der with
  | some key =>
    if (Ed25519.Point.decompress? key).isSome then return key
    else throw (.inappropriateKey .publicKey)
  | none => throw (.inappropriateKey .publicKey)

/-- The key as diagnostics show it. -/
def describe (k : PublicKey) : String :=
  Text.record "PublicKey" true
    [("algorithm", Text.quote k.algorithm),
     ("der", Text.bracketed "[" "]" (k.der.map fun byte => Numeral.ofNat byte.toNat))]

end PublicKey

namespace PrivateKey

/-- The tag of the verifying key in the encoding of a signing key. -/
def publicKeyTag : UInt8 := 0x81

/-- The encoding of a seed with its verifying key: a version, the algorithm, the seed in a byte
string of its own, and the key. -/
def encoding (seed key : Bytes) : Bytes :=
  Der.encode Der.sequence
    (Der.encode Der.integer [1] ++ Der.encode Der.sequence algorithmEncoding ++
      Der.encode Der.octetString (Der.encode Der.octetString seed) ++
      Der.encode publicKeyTag (0 :: key))

/-- The signing key of a seed. -/
def ofSeed (seed : Bytes) : PrivateKey :=
  ⟨keyAlgorithm, encoding seed (Ed25519.publicKey seed)⟩

/-- What follows the attributes of an encoding: elements with the tags `0x80` and `0xa0`, which say
nothing about the key. -/
def skipAttributes : (limit : Nat) → Bytes → Option Bytes
  | 0, _ => none
  | limit + 1, rest =>
    match rest with
    | tag :: _ =>
      if tag = 0x80 ∨ tag = 0xa0 then do
        let (_, rest) ← Der.element? rest
        skipAttributes limit rest
      else some rest
    | [] => some []

/-- The verifying key that an encoding holds at this place, if there is one, and what follows it.
The key is not in an element of its own: the tag `0xa1` has no place here. -/
def publicKey? (rest : Bytes) : Option (Option Bytes × Bytes) :=
  match rest with
  | tag :: _ =>
    if tag = publicKeyTag then do
      let (bits, rest) ← Der.expect? publicKeyTag rest
      match bits with
      | 0 :: key => if key.length = 32 then some (some key, rest) else none
      | _ => none
    else if tag = 0xa1 then none
    else some (none, rest)
  | [] => some (none, [])

/-- The byte string consists of elements that depend on their place, each around one other
element. -/
def areExtensions : (limit : Nat) → Bytes → Bool
  | _, [] => true
  | 0, _ => false
  | limit + 1, rest =>
    match Der.element? rest with
    | some (e, rest) =>
      0xa0 ≤ e.tag && e.tag ≤ 0xbe && ((Der.element? e.content).any (·.2.isEmpty)) &&
        areExtensions limit rest
    | none => false

/-- The seed that an encoding holds. A verifying key is there in the second version only, and has to
be the one of the seed. -/
def decode? (der : Bytes) : Option Bytes := do
  let body ← Der.only? Der.sequence der
  let (version, rest) ← Der.expect? Der.integer body
  let (algorithm, rest) ← Der.expect? Der.sequence rest
  let (inner, rest) ← Der.expect? Der.octetString rest
  let rest ← skipAttributes (rest.length + 1) rest
  let (key, rest) ← publicKey? rest
  match inner with
  | 0x04 :: 0x20 :: seed =>
    if version = [if key.isSome then 1 else 0] ∧ algorithm = algorithmEncoding ∧
        seed.length = 32 ∧ areExtensions rest.length rest ∧
        (∀ bytes ∈ key, bytes = Ed25519.publicKey seed) then
      some seed
    else none
  | _ => none

/-- The seed of a key. -/
def seed (k : PrivateKey) : Except Error Bytes := do
  checkAlgorithm k.algorithm
  match decode? k.der with
  | some seed => return seed
  | none => throw (.inappropriateKey .privateKey)

/-- The key as diagnostics show it, its encoding left out. -/
def describe (k : PrivateKey) : String :=
  Text.record "PrivateKey" true
    [("algorithm", Text.quote k.algorithm), ("der", Text.quote "<redacted>")]

end PrivateKey

end Licensing
