/-!
# Byte strings

Byte strings are lists of bytes. This file fixes how numbers are written into them, with the most
significant or the least significant byte first, and how a text becomes its UTF-8 bytes.

## Main definitions

* `Bytes.bigEndian`, `Bytes.ofBigEndian` — numbers with the most significant byte first.
* `Bytes.littleEndian`, `Bytes.ofLittleEndian` — numbers with the least significant byte first.
* `Bytes.ofText` — the UTF-8 bytes of a text.
* `Bytes.chunks` — a byte string cut into pieces of one size, the last one possibly shorter.
* `Bytes.xor` — the bytewise exclusive or.
-/

namespace Licensing

/-- A byte string. -/
abbrev Bytes : Type := List UInt8

namespace Bytes

/-- The UTF-8 bytes of a text. -/
def ofText (text : String) : Bytes :=
  text.toUTF8.data.toList

/-- The last `width` base-256 digits of `n`, the most significant first. -/
def bigEndian : (width : Nat) → (n : Nat) → Bytes
  | 0, _ => []
  | width + 1, n => bigEndian width (n / 256) ++ [UInt8.ofNat n]

/-- The number whose base-256 digits are given, the most significant first. -/
def ofBigEndian (digits : Bytes) : Nat :=
  digits.foldl (fun n digit => 256 * n + digit.toNat) 0

/-- The last `width` base-256 digits of `n`, the least significant first. -/
def littleEndian : (width : Nat) → (n : Nat) → Bytes
  | 0, _ => []
  | width + 1, n => UInt8.ofNat n :: littleEndian width (n / 256)

/-- The number whose base-256 digits are given, the least significant first. -/
def ofLittleEndian : Bytes → Nat
  | [] => 0
  | digit :: digits => digit.toNat + 256 * ofLittleEndian digits

/-- At most `count` pieces of `size` bytes, in order; the last piece may be shorter. -/
def chunksUpTo (size : Nat) : (count : Nat) → Bytes → List Bytes
  | 0, _ => []
  | count + 1, bytes =>
    if bytes.isEmpty then [] else bytes.take size :: chunksUpTo size count (bytes.drop size)

/-- The pieces of `size` bytes of a byte string, in order; the last piece may be shorter. -/
def chunks (size : Nat) (bytes : Bytes) : List Bytes :=
  chunksUpTo size bytes.length bytes

/-- The bytewise exclusive or, as long as the shorter operand. -/
def xor (left right : Bytes) : Bytes :=
  left.zipWith (· ^^^ ·) right

@[simp] theorem length_bigEndian (width n : Nat) : (bigEndian width n).length = width := by
  induction width generalizing n with
  | zero => rfl
  | succ width ih => simp [bigEndian, ih]

@[simp] theorem length_littleEndian (width n : Nat) : (littleEndian width n).length = width := by
  induction width generalizing n with
  | zero => rfl
  | succ width ih => simp [littleEndian, ih]

/-- Adding a mask twice gives the bytes back. -/
theorem xor_xor :
    ∀ (bytes mask : Bytes), bytes.length ≤ mask.length → xor (xor bytes mask) mask = bytes
  | [], _, _ => by simp [xor]
  | byte :: bytes, [], h => by simp at h
  | byte :: bytes, m :: mask, h => by
    have ih := xor_xor bytes mask (by simpa using h)
    have back : byte ^^^ m ^^^ m = byte := by
      rw [UInt8.xor_assoc, UInt8.xor_self, UInt8.xor_zero]
    simp only [xor] at ih
    simp [xor, ih, back]

end Bytes

end Licensing
