import Licensing.Bytes
import Licensing.Word

/-!
# SHA-256

The SHA-256 hash function. A message is closed by a one bit, zero bits and its length in bits, cut
into blocks of 64 bytes, and every block is mixed into eight words of 32 bits in 64 rounds.

## Main definitions

* `Sha256.pad` — the message as it is cut into blocks.
* `Sha256.compress` — one block mixed into the eight words.
* `Sha256.digest` — the hash of a byte string.

## Main results

* `Sha256.length_digest` — a digest has 32 bytes.
-/

namespace Licensing.Sha256

/-- The eight words that a message is mixed into. -/
structure Words where
  a : UInt32
  b : UInt32
  c : UInt32
  d : UInt32
  e : UInt32
  f : UInt32
  g : UInt32
  h : UInt32
  deriving DecidableEq, Repr

/-- The words before the first block. -/
def initial : Words :=
  ⟨0x6a09e667, 0xbb67ae85, 0x3c6ef372, 0xa54ff53a,
   0x510e527f, 0x9b05688c, 0x1f83d9ab, 0x5be0cd19⟩

/-- The constant of each round. -/
def roundConstants : List UInt32 :=
  [0x428a2f98, 0x71374491, 0xb5c0fbcf, 0xe9b5dba5, 0x3956c25b, 0x59f111f1, 0x923f82a4,
   0xab1c5ed5, 0xd807aa98, 0x12835b01, 0x243185be, 0x550c7dc3, 0x72be5d74, 0x80deb1fe,
   0x9bdc06a7, 0xc19bf174, 0xe49b69c1, 0xefbe4786, 0x0fc19dc6, 0x240ca1cc, 0x2de92c6f,
   0x4a7484aa, 0x5cb0a9dc, 0x76f988da, 0x983e5152, 0xa831c66d, 0xb00327c8, 0xbf597fc7,
   0xc6e00bf3, 0xd5a79147, 0x06ca6351, 0x14292967, 0x27b70a85, 0x2e1b2138, 0x4d2c6dfc,
   0x53380d13, 0x650a7354, 0x766a0abb, 0x81c2c92e, 0x92722c85, 0xa2bfe8a1, 0xa81a664b,
   0xc24b8b70, 0xc76c51a3, 0xd192e819, 0xd6990624, 0xf40e3585, 0x106aa070, 0x19a4c116,
   0x1e376c08, 0x2748774c, 0x34b0bcb5, 0x391c0cb3, 0x4ed8aa4a, 0x5b9cca4f, 0x682e6ff3,
   0x748f82ee, 0x78a5636f, 0x84c87814, 0x8cc70208, 0x90befffa, 0xa4506ceb, 0xbef9a3f7,
   0xc67178f2]

/-- The 32-bit words of a block, the most significant byte first. -/
def wordsOf (block : Bytes) : Array UInt32 :=
  ((Bytes.chunks 4 block).map fun bytes => UInt32.ofNat (Bytes.ofBigEndian bytes)).toArray

/-- The next word of the schedule, from the sixteen words before it. -/
def nextWord (schedule : Array UInt32) : UInt32 :=
  let back := fun n => schedule.getD (schedule.size - n) 0
  let x := back 15
  let y := back 2
  back 16 + (Word.rotateRight32 x 7 ^^^ Word.rotateRight32 x 18 ^^^ (x >>> 3)) + back 7 +
    (Word.rotateRight32 y 17 ^^^ Word.rotateRight32 y 19 ^^^ (y >>> 10))

/-- One word for each round: the words of the block, then those that they determine. -/
def schedule (block : Bytes) : Array UInt32 :=
  (List.range 48).foldl (fun words _ => words.push (nextWord words)) (wordsOf block)

/-- The exclusive or of three rotations of a word. -/
def rotations (x i j k : UInt32) : UInt32 :=
  Word.rotateRight32 x i ^^^ Word.rotateRight32 x j ^^^ Word.rotateRight32 x k

/-- One round, with its constant and its word of the schedule added up. -/
def round (w : Words) (input : UInt32) : Words :=
  let t₁ := w.h + rotations w.e 6 11 25 + ((w.e &&& w.f) ^^^ (~~~w.e &&& w.g)) + input
  let t₂ := rotations w.a 2 13 22 + ((w.a &&& w.b) ^^^ (w.a &&& w.c) ^^^ (w.b &&& w.c))
  ⟨t₁ + t₂, w.a, w.b, w.c, w.d + t₁, w.e, w.f, w.g⟩

/-- One block mixed into the eight words. -/
def compress (w : Words) (block : Bytes) : Words :=
  let mixed := (roundConstants.zipWith (· + ·) (schedule block).toList).foldl round w
  ⟨w.a + mixed.a, w.b + mixed.b, w.c + mixed.c, w.d + mixed.d,
   w.e + mixed.e, w.f + mixed.f, w.g + mixed.g, w.h + mixed.h⟩

/-- The message closed by a one bit, zero bits and its length in bits, so that whole blocks
result. -/
def pad (message : Bytes) : Bytes :=
  message ++ 0x80 :: List.replicate ((64 - (message.length + 9) % 64) % 64) 0 ++
    Bytes.bigEndian 8 (8 * message.length)

/-- The bytes of the eight words. -/
def Words.toBytes (w : Words) : Bytes :=
  [w.a, w.b, w.c, w.d, w.e, w.f, w.g, w.h].flatMap fun word => Bytes.bigEndian 4 word.toNat

/-- The hash of a byte string. -/
def digest (message : Bytes) : Bytes :=
  ((Bytes.chunks 64 (pad message)).foldl compress initial).toBytes

@[simp] theorem length_digest (message : Bytes) : (digest message).length = 32 := by
  simp [digest, Words.toBytes]

end Licensing.Sha256
