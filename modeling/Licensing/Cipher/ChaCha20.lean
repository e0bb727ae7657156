import Licensing.Bytes
import Licensing.Word

/-!
# ChaCha20

The ChaCha20 stream cipher with a nonce of twelve bytes and a block counter of 32 bits. Encrypting
and decrypting are the same: the bytes of the key stream are added to the text bit by bit.

## Main definitions

* `ChaCha20.block` — the 64 bytes of the key stream at one value of the counter.
* `ChaCha20.keyStream` — the key stream from one value of the counter on.
* `ChaCha20.apply` — a text with the key stream added.

## Main results

* `ChaCha20.apply_apply` — adding the key stream twice gives the text back.
-/

namespace Licensing.ChaCha20

/-- One quarter round on four of the sixteen words. -/
def quarterRound (v : Vector UInt32 16) (i j k l : Fin 16) : Vector UInt32 16 :=
  let a := v[i] + v[j]
  let d := Word.rotateLeft32 (v[l] ^^^ a) 16
  let c := v[k] + d
  let b := Word.rotateLeft32 (v[j] ^^^ c) 12
  let a := a + b
  let d := Word.rotateLeft32 (d ^^^ a) 8
  let c := c + d
  let b := Word.rotateLeft32 (b ^^^ c) 7
  (((v.set i a).set j b).set k c).set l d

/-- Two rounds: the columns of the four-by-four square, then its diagonals. -/
def doubleRound (v : Vector UInt32 16) : Vector UInt32 16 :=
  let v := quarterRound v 0 4 8 12
  let v := quarterRound v 1 5 9 13
  let v := quarterRound v 2 6 10 14
  let v := quarterRound v 3 7 11 15
  let v := quarterRound v 0 5 10 15
  let v := quarterRound v 1 6 11 12
  let v := quarterRound v 2 7 8 13
  quarterRound v 3 4 9 14

/-- The 32-bit words of a byte string, the least significant byte first. -/
def wordsOf (bytes : Bytes) : List UInt32 :=
  (Bytes.chunks 4 bytes).map fun word => UInt32.ofNat (Bytes.ofLittleEndian word)

/-- The four words that every block starts with. -/
def constants : List UInt32 :=
  [0x61707865, 0x3320646e, 0x79622d32, 0x6b206574]

/-- The sixteen words that a block is computed from. -/
def start (key nonce : Bytes) (counter : Nat) : Vector UInt32 16 :=
  let words := constants ++ wordsOf key ++ [UInt32.ofNat counter] ++ wordsOf nonce
  Vector.ofFn fun i => words.getD i 0

/-- The 64 bytes of the key stream at one value of the counter. -/
def block (key nonce : Bytes) (counter : Nat) : Bytes :=
  let first := start key nonce counter
  let last := (List.range 10).foldl (fun v _ => doubleRound v) first
  (first.zipWith (· + ·) last).toList.flatMap fun word => Bytes.littleEndian 4 word.toNat

/-- The key stream for `length` bytes, from one value of the counter on. -/
def keyStream (key nonce : Bytes) (counter length : Nat) : Bytes :=
  ((List.range ((length + 63) / 64)).flatMap fun n => block key nonce (counter + n)).take length

/-- The text with the key stream from one value of the counter on added. -/
def apply (key nonce : Bytes) (counter : Nat) (text : Bytes) : Bytes :=
  Bytes.xor text (keyStream key nonce counter text.length)

@[simp] theorem length_block (key nonce : Bytes) (counter : Nat) :
    (block key nonce counter).length = 64 := by
  simp only [block, List.length_flatMap, Bytes.length_littleEndian, List.map_const',
    Vector.length_toList, List.sum_replicate_nat]

@[simp] theorem length_keyStream (key nonce : Bytes) (counter length : Nat) :
    (keyStream key nonce counter length).length = length := by
  simp only [keyStream, List.length_take, List.length_flatMap, length_block, List.map_const',
    List.length_range, List.sum_replicate_nat]
  omega

@[simp] theorem length_apply (key nonce : Bytes) (counter : Nat) (text : Bytes) :
    (apply key nonce counter text).length = text.length := by
  simp [apply, Bytes.xor]

/-- Adding the key stream twice gives the text back. -/
theorem apply_apply (key nonce : Bytes) (counter : Nat) (text : Bytes) :
    apply key nonce counter (apply key nonce counter text) = text := by
  rw [apply, length_apply, apply]
  exact Bytes.xor_xor _ _ (by simp)

end Licensing.ChaCha20
