import Licensing.Bytes
import Licensing.Word

/-!
# SipHash-1-3

The SipHash function with one round for each word of the message and three rounds at the end, under
the key zero. It spreads byte strings over 64-bit words and is no protection against an adversary.

## Main definitions

* `SipHash.digest` — the hash of a byte string.
-/

namespace Licensing.SipHash

/-- The four words that a message is mixed into. -/
structure Words where
  v₀ : UInt64
  v₁ : UInt64
  v₂ : UInt64
  v₃ : UInt64
  deriving DecidableEq, Repr

/-- The words before the first word of the message. -/
def initial : Words :=
  ⟨0x736f6d6570736575, 0x646f72616e646f6d, 0x6c7967656e657261, 0x7465646279746573⟩

/-- One round. -/
def round (w : Words) : Words :=
  let v₀ := w.v₀ + w.v₁
  let v₁ := Word.rotateLeft64 w.v₁ 13 ^^^ v₀
  let v₀ := Word.rotateLeft64 v₀ 32
  let v₂ := w.v₂ + w.v₃
  let v₃ := Word.rotateLeft64 w.v₃ 16 ^^^ v₂
  let v₀ := v₀ + v₃
  let v₃ := Word.rotateLeft64 v₃ 21 ^^^ v₀
  let v₂ := v₂ + v₁
  let v₁ := Word.rotateLeft64 v₁ 17 ^^^ v₂
  let v₂ := Word.rotateLeft64 v₂ 32
  ⟨v₀, v₁, v₂, v₃⟩

/-- One word of the message mixed in. -/
def absorb (w : Words) (word : UInt64) : Words :=
  let w := round { w with v₃ := w.v₃ ^^^ word }
  { w with v₀ := w.v₀ ^^^ word }

/-- The message filled up with zeros and one byte for its length, so that whole words result. -/
def pad (message : Bytes) : Bytes :=
  message ++ List.replicate (7 - message.length % 8) 0 ++ [UInt8.ofNat message.length]

/-- The hash of a byte string. -/
def digest (message : Bytes) : UInt64 :=
  let words := (Bytes.chunks 8 (pad message)).map fun bytes =>
    UInt64.ofNat (Bytes.ofLittleEndian bytes)
  let w := words.foldl absorb initial
  let w := round (round (round { w with v₂ := w.v₂ ^^^ 0xff }))
  w.v₀ ^^^ w.v₁ ^^^ w.v₂ ^^^ w.v₃

end Licensing.SipHash
