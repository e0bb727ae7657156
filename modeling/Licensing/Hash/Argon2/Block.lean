import Licensing.Hash.Square
import Licensing.Word

/-!
# The blocks of Argon2

A block is 128 words of 64 bits, held as eight rows of sixteen words. Two blocks are compressed into
one by their exclusive or, permuted along its rows and then along its columns, where a column is a
column of pairs of neighbouring words.

## Main definitions

* `Argon2.permute` — the permutation of sixteen words.
* `Argon2.Block.compress` — two blocks compressed into one.
* `Argon2.Block.toBytes`, `Argon2.Block.ofBytes` — blocks as 1024 bytes.
-/

namespace Licensing.Argon2

/-- The sum of two words and twice the product of their low halves. -/
@[inline] def multiplyAdd (x y : UInt64) : UInt64 :=
  x + y + 2 * (x &&& 0xffffffff) * (y &&& 0xffffffff)

/-- The permutation of four words. -/
@[inline] def mix (a b c d : UInt64) : Quarter :=
  let a := multiplyAdd a b
  let d := Word.rotateRight64 (d ^^^ a) 32
  let c := multiplyAdd c d
  let b := Word.rotateRight64 (b ^^^ c) 24
  let a := multiplyAdd a b
  let d := Word.rotateRight64 (d ^^^ a) 16
  let c := multiplyAdd c d
  let b := Word.rotateRight64 (b ^^^ c) 63
  ⟨a, b, c, d⟩

/-- The permutation of sixteen words. -/
def permute (row : Square) : Square :=
  row.permute fun _ => mix

/-- Eight rows of sixteen words. -/
structure Block where
  r0 : Square
  r1 : Square
  r2 : Square
  r3 : Square
  r4 : Square
  r5 : Square
  r6 : Square
  r7 : Square
  deriving DecidableEq

namespace Block

/-- The operation applied to every row. -/
@[inline] def map (f : Square → Square) (b : Block) : Block :=
  ⟨f b.r0, f b.r1, f b.r2, f b.r3, f b.r4, f b.r5, f b.r6, f b.r7⟩

/-- The wordwise exclusive or. -/
def xor (b c : Block) : Block :=
  ⟨b.r0.xor c.r0, b.r1.xor c.r1, b.r2.xor c.r2, b.r3.xor c.r3,
   b.r4.xor c.r4, b.r5.xor c.r5, b.r6.xor c.r6, b.r7.xor c.r7⟩

/-- Rows and columns exchanged, a column being a column of pairs of words. -/
def transpose (b : Block) : Block :=
  ⟨⟨b.r0.w0, b.r0.w1, b.r1.w0, b.r1.w1, b.r2.w0, b.r2.w1, b.r3.w0, b.r3.w1,
    b.r4.w0, b.r4.w1, b.r5.w0, b.r5.w1, b.r6.w0, b.r6.w1, b.r7.w0, b.r7.w1⟩,
   ⟨b.r0.w2, b.r0.w3, b.r1.w2, b.r1.w3, b.r2.w2, b.r2.w3, b.r3.w2, b.r3.w3,
    b.r4.w2, b.r4.w3, b.r5.w2, b.r5.w3, b.r6.w2, b.r6.w3, b.r7.w2, b.r7.w3⟩,
   ⟨b.r0.w4, b.r0.w5, b.r1.w4, b.r1.w5, b.r2.w4, b.r2.w5, b.r3.w4, b.r3.w5,
    b.r4.w4, b.r4.w5, b.r5.w4, b.r5.w5, b.r6.w4, b.r6.w5, b.r7.w4, b.r7.w5⟩,
   ⟨b.r0.w6, b.r0.w7, b.r1.w6, b.r1.w7, b.r2.w6, b.r2.w7, b.r3.w6, b.r3.w7,
    b.r4.w6, b.r4.w7, b.r5.w6, b.r5.w7, b.r6.w6, b.r6.w7, b.r7.w6, b.r7.w7⟩,
   ⟨b.r0.w8, b.r0.w9, b.r1.w8, b.r1.w9, b.r2.w8, b.r2.w9, b.r3.w8, b.r3.w9,
    b.r4.w8, b.r4.w9, b.r5.w8, b.r5.w9, b.r6.w8, b.r6.w9, b.r7.w8, b.r7.w9⟩,
   ⟨b.r0.w10, b.r0.w11, b.r1.w10, b.r1.w11, b.r2.w10, b.r2.w11, b.r3.w10, b.r3.w11,
    b.r4.w10, b.r4.w11, b.r5.w10, b.r5.w11, b.r6.w10, b.r6.w11, b.r7.w10, b.r7.w11⟩,
   ⟨b.r0.w12, b.r0.w13, b.r1.w12, b.r1.w13, b.r2.w12, b.r2.w13, b.r3.w12, b.r3.w13,
    b.r4.w12, b.r4.w13, b.r5.w12, b.r5.w13, b.r6.w12, b.r6.w13, b.r7.w12, b.r7.w13⟩,
   ⟨b.r0.w14, b.r0.w15, b.r1.w14, b.r1.w15, b.r2.w14, b.r2.w15, b.r3.w14, b.r3.w15,
    b.r4.w14, b.r4.w15, b.r5.w14, b.r5.w15, b.r6.w14, b.r6.w15, b.r7.w14, b.r7.w15⟩⟩

/-- Two blocks compressed into one. -/
def compress (b c : Block) : Block :=
  let r := b.xor c
  r.xor (((r.map permute).transpose.map permute).transpose)

/-- The words in order. -/
def words (b : Block) : List UInt64 :=
  [b.r0, b.r1, b.r2, b.r3, b.r4, b.r5, b.r6, b.r7].flatMap Square.toList

/-- The block of the first 128 words of a list, missing words being zero. -/
def ofWords (words : List UInt64) : Block :=
  let row := fun n => Square.ofList (words.drop (16 * n))
  ⟨row 0, row 1, row 2, row 3, row 4, row 5, row 6, row 7⟩

/-- The bytes of a block, the least significant byte of each word first. -/
def toBytes (b : Block) : Bytes :=
  Bytes.ofWords b.words

/-- The block of 1024 bytes. -/
def ofBytes (bytes : Bytes) : Block :=
  ofWords bytes.toWords

/-- The block of zeros. -/
def zero : Block :=
  ofWords []

end Block

end Licensing.Argon2
