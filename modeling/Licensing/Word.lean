/-!
# Rotations of words

Words of 32 and of 64 bits, rotated.

## Main definitions

* `Word.rotateRight32`, `Word.rotateLeft32` — rotations of words of 32 bits.
* `Word.rotateRight64`, `Word.rotateLeft64` — rotations of words of 64 bits.
-/

namespace Licensing.Word

/-- The word rotated to the right by `n` places, where `0 < n < 32`. -/
@[inline] def rotateRight32 (x n : UInt32) : UInt32 :=
  (x >>> n) ||| (x <<< (32 - n))

/-- The word rotated to the left by `n` places, where `0 < n < 32`. -/
@[inline] def rotateLeft32 (x n : UInt32) : UInt32 :=
  (x <<< n) ||| (x >>> (32 - n))

/-- The word rotated to the right by `n` places, where `0 < n < 64`. -/
@[inline] def rotateRight64 (x n : UInt64) : UInt64 :=
  (x >>> n) ||| (x <<< (64 - n))

/-- The word rotated to the left by `n` places, where `0 < n < 64`. -/
@[inline] def rotateLeft64 (x n : UInt64) : UInt64 :=
  (x <<< n) ||| (x >>> (64 - n))

end Licensing.Word
