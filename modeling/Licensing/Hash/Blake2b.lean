import Licensing.Hash.Square
import Licensing.Word

/-!
# BLAKE2b

The unkeyed BLAKE2b hash function with digests of one to sixty-four bytes. A message is cut into
blocks of 128 bytes, the last one filled up with zeros, and every block is mixed into eight words of
64 bits in twelve rounds, together with the number of bytes read so far.

## Main definitions

* `Blake2b.compress` — one block mixed into the eight words.
* `Blake2b.digest` — the hash of a byte string, in as many bytes as wanted.
-/

namespace Licensing.Blake2b

/-- The words that a digest starts from. -/
def initial : List UInt64 :=
  [0x6a09e667f3bcc908, 0xbb67ae8584caa73b, 0x3c6ef372fe94f82b, 0xa54ff53a5f1d36f1,
   0x510e527fade682d1, 0x9b05688c2b3e6c1f, 0x1f83d9abfb41bd6b, 0x5be0cd19137e2179]

/-- The order in which each round reads the words of the block. -/
def orders : List (List Nat) :=
  [[0, 1, 2, 3, 4, 5, 6, 7, 8, 9, 10, 11, 12, 13, 14, 15],
   [14, 10, 4, 8, 9, 15, 13, 6, 1, 12, 0, 2, 11, 7, 5, 3],
   [11, 8, 12, 0, 5, 2, 15, 13, 10, 14, 3, 6, 7, 1, 9, 4],
   [7, 9, 3, 1, 13, 12, 11, 14, 2, 6, 5, 10, 4, 0, 15, 8],
   [9, 0, 5, 7, 2, 4, 10, 15, 14, 1, 11, 12, 6, 8, 3, 13],
   [2, 12, 6, 10, 0, 11, 8, 3, 4, 13, 7, 5, 15, 14, 1, 9],
   [12, 5, 1, 15, 14, 13, 4, 10, 0, 7, 6, 3, 9, 2, 8, 11],
   [13, 11, 7, 14, 12, 1, 3, 9, 5, 0, 15, 4, 8, 6, 2, 10],
   [6, 15, 14, 9, 11, 3, 0, 8, 12, 2, 13, 7, 1, 4, 10, 5],
   [10, 2, 8, 4, 7, 6, 1, 5, 15, 11, 9, 14, 3, 12, 13, 0],
   [0, 1, 2, 3, 4, 5, 6, 7, 8, 9, 10, 11, 12, 13, 14, 15],
   [14, 10, 4, 8, 9, 15, 13, 6, 1, 12, 0, 2, 11, 7, 5, 3]]

/-- Two words of the block mixed into four words of the square. -/
def mix (a b c d x y : UInt64) : Quarter :=
  let a := a + b + x
  let d := Word.rotateRight64 (d ^^^ a) 32
  let c := c + d
  let b := Word.rotateRight64 (b ^^^ c) 24
  let a := a + b + y
  let d := Word.rotateRight64 (d ^^^ a) 16
  let c := c + d
  let b := Word.rotateRight64 (b ^^^ c) 63
  ⟨a, b, c, d⟩

/-- One round, in which the words of the block are read in an order. -/
def round (block : Array UInt64) (v : Square) (order : List Nat) : Square :=
  let word := fun n => block.getD (order.getD n 0) 0
  v.permute fun i a b c d => mix a b c d (word (2 * i)) (word (2 * i + 1))

/-- The words that a block is mixed into: the eight words, and those that a digest starts from,
changed by the number of bytes read and by whether the block is the last one. -/
def start (h : List UInt64) (read : Nat) (last : Bool) : Square :=
  let marks := [0, 0, 0, 0, UInt64.ofNat read, UInt64.ofNat (read / 0x10000000000000000),
    if last then 0xffffffffffffffff else 0, 0]
  Square.ofList (h ++ initial.zipWith (· ^^^ ·) marks)

/-- One block mixed into the eight words. `read` counts the bytes of the message up to the end of
the block. -/
def compress (h : List UInt64) (block : Bytes) (read : Nat) (last : Bool) : List UInt64 :=
  let words := (orders.foldl (round block.toWords.toArray) (start h read last)).toList
  h.zipWith (· ^^^ ·) ((words.take 8).zipWith (· ^^^ ·) (words.drop 8))

/-- The block filled up with zeros. -/
def fill (block : Bytes) : Bytes :=
  block ++ List.replicate (128 - block.length) 0

/-- The blocks of a message, mixed in one after the other; `read` bytes came before them. -/
def absorb (h : List UInt64) (read : Nat) : List Bytes → List UInt64
  | [] => compress h (fill []) read true
  | [block] => compress h (fill block) (read + block.length) true
  | block :: next :: blocks =>
    absorb (compress h block (read + block.length) false) (read + block.length) (next :: blocks)

/-- The eight words before the first block. The first of them holds the length of the digest. -/
def parameters (size : Nat) : List UInt64 :=
  initial.zipWith (· ^^^ ·) [0x01010000 ^^^ UInt64.ofNat size, 0, 0, 0, 0, 0, 0, 0]

/-- The first `size` bytes of the hash of a byte string; `size` is part of what is hashed. -/
def digest (size : Nat) (message : Bytes) : Bytes :=
  (Bytes.ofWords (absorb (parameters size) 0 (Bytes.chunks 128 message))).take size

end Licensing.Blake2b
