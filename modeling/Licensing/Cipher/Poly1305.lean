import Licensing.Bytes

/-!
# Poly1305

The Poly1305 one-time authenticator. The blocks of a message are the coefficients of a polynomial
over the integers modulo `2 ^ 130 - 5`; its value at the first half of the key, with the second half
added, is the tag.

## Main definitions

* `Poly1305.evaluate` — the value of the polynomial.
* `Poly1305.tag` — the tag of a message.
-/

namespace Licensing.Poly1305

/-- The modulus of the polynomial. -/
def modulus : Nat :=
  Nat.pow 2 130 - 5

/-- Where the polynomial is evaluated: a number of sixteen bytes with 22 bits cleared. -/
def point (half : Bytes) : Nat :=
  Bytes.ofLittleEndian half &&& 0x0ffffffc0ffffffc0ffffffc0fffffff

/-- The value at a point of the polynomial whose coefficients are given. A block is read with a one
bit after its last byte. -/
def evaluate (r : Nat) (blocks : List Bytes) : Nat :=
  blocks.foldl
    (fun value block => (value + Bytes.ofLittleEndian (block ++ [1])) * r % modulus) 0

/-- The tag of a message under a key of 32 bytes. -/
def tag (key message : Bytes) : Bytes :=
  let value := evaluate (point (key.take 16)) (Bytes.chunks 16 message)
  Bytes.littleEndian 16 (value + Bytes.ofLittleEndian (key.drop 16))

@[simp] theorem length_tag (key message : Bytes) : (tag key message).length = 16 := by
  simp [tag]

end Licensing.Poly1305
