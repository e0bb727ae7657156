import Licensing.Cipher.ChaCha20
import Licensing.Cipher.Poly1305

/-!
# Authenticated encryption

ChaCha20-Poly1305 without associated data: a plaintext is encrypted with the key stream from block
one on, and a tag of sixteen bytes over the ciphertext follows it, made with a one-time key that is
the start of block zero.

## Main definitions

* `Aead.seal?` — the ciphertext and tag of a plaintext.
* `Aead.open?` — the plaintext, if the tag is right.

## Main results

* `Aead.open?_seal?` — what was sealed opens.
* `Aead.eq_of_open?` — nothing opens but what was sealed.

## Implementation notes

The counter has 32 bits, so that texts of `2 ^ 32 - 1` whole blocks or more are refused.
-/

namespace Licensing.Aead

/-- The length of a tag. -/
def tagLength : Nat := 16

/-- A text is short enough for the counter. -/
def Fits (text : Bytes) : Prop :=
  text.length / 64 < 0xffffffff

instance (text : Bytes) : Decidable (Fits text) :=
  inferInstanceAs (Decidable (_ < _))

/-- The tag of a ciphertext. -/
def tag (key nonce ciphertext : Bytes) : Bytes :=
  let once := (ChaCha20.block key nonce 0).take 32
  let padding := List.replicate ((16 - ciphertext.length % 16) % 16) 0
  Poly1305.tag once (ciphertext ++ padding ++ Bytes.littleEndian 8 0 ++
    Bytes.littleEndian 8 ciphertext.length)

/-- The ciphertext of a plaintext, then its tag. -/
def seal? (key nonce plaintext : Bytes) : Option Bytes :=
  if Fits plaintext then
    let ciphertext := ChaCha20.apply key nonce 1 plaintext
    some (ciphertext ++ tag key nonce ciphertext)
  else none

/-- The plaintext of a ciphertext and its tag, if the tag is right. -/
def open? (key nonce sealed : Bytes) : Option Bytes :=
  let ciphertext := sealed.take (sealed.length - tagLength)
  if Fits ciphertext ∧ sealed.drop (sealed.length - tagLength) = tag key nonce ciphertext then
    some (ChaCha20.apply key nonce 1 ciphertext)
  else none

@[simp] theorem length_tag (key nonce ciphertext : Bytes) :
    (tag key nonce ciphertext).length = tagLength := by
  simp [tag, tagLength]

/-- What was sealed opens. -/
theorem open?_seal? {key nonce plaintext sealed : Bytes}
    (h : seal? key nonce plaintext = some sealed) : open? key nonce sealed = some plaintext := by
  unfold seal? at h
  split at h
  · next fits =>
    cases h
    have fits' : Fits (ChaCha20.apply key nonce 1 plaintext) := by
      simpa [Fits] using fits
    simp [open?, fits', ChaCha20.apply_apply]
  · cases h

/-- Nothing opens but what was sealed. -/
theorem eq_of_open? {key nonce sealed plaintext : Bytes}
    (h : open? key nonce sealed = some plaintext) : seal? key nonce plaintext = some sealed := by
  simp only [open?] at h
  split at h
  · next right =>
    cases h
    have fits : Fits (ChaCha20.apply key nonce 1
        (sealed.take (sealed.length - tagLength))) := by
      simpa [Fits] using right.1
    simp only [seal?, fits, if_true, ChaCha20.apply_apply, ← right.2, List.take_append_drop]
  · cases h

end Licensing.Aead
