import Licensing.Hash.Argon2.Block
import Licensing.Hash.Blake2b

/-!
# Argon2id

The Argon2id key derivation function, version 1.3, with one lane and without a secret or associated
data. The password and the salt determine the first two blocks of the memory; every later block is
compressed from the one before it and one that a pseudorandom word picks. The word is the same for
all passwords in the first half of the first pass and depends on the password after that.

## Main definitions

* `Argon2.Cost` — the number of blocks and of passes, and the length of the key.
* `Argon2.stretch` — a byte string hashed into as many bytes as wanted.
* `Argon2.fill` — the memory after the last pass.
* `Argon2.derive` — the key of a password and a salt.
-/

namespace Licensing.Argon2

/-- What a derivation costs and how long its key is. -/
structure Cost where
  /-- The number of blocks of the memory, a multiple of four. -/
  blocks : Nat
  /-- The number of passes over the memory. -/
  passes : Nat
  /-- The length of the key in bytes. -/
  keyLength : Nat
  deriving DecidableEq, Repr

/-- A number as four bytes. -/
def number (n : Nat) : Bytes :=
  Bytes.littleEndian 4 n

/-- The first halves of `count` digests, each one hashed from the one before it, and then the last
digest, of `size` bytes. -/
def stretchFrom (size : Nat) : (count : Nat) → (digest : Bytes) → Bytes
  | 0, digest => Blake2b.digest size digest
  | count + 1, digest =>
    let next := Blake2b.digest 64 digest
    next.take 32 ++ stretchFrom size count next

/-- The hash of a byte string in `size` bytes. -/
def stretch (size : Nat) (message : Bytes) : Bytes :=
  let message := number size ++ message
  if size ≤ 64 then Blake2b.digest size message
  else
    let count := (size + 31) / 32 - 2
    stretchFrom (size - 32 * count) count message

/-- The hash of everything that a derivation depends on. -/
def seed (cost : Cost) (password salt : Bytes) : Bytes :=
  Blake2b.digest 64 (number 1 ++ number cost.keyLength ++ number cost.blocks ++
    number cost.passes ++ number 0x13 ++ number 2 ++ number password.length ++ password ++
    number salt.length ++ salt ++ number 0 ++ number 0)

/-- The memory before the first pass: the first two blocks are known, the others zero. -/
def start (cost : Cost) (password salt : Bytes) : Array Block :=
  let h := seed cost password salt
  let block := fun n => Block.ofBytes (stretch 1024 (h ++ number n ++ number 0))
  ((Array.replicate cost.blocks Block.zero).setIfInBounds 0 (block 0)).setIfInBounds 1 (block 1)

/-- The length of a segment, a quarter of the memory. -/
def Cost.segment (cost : Cost) : Nat :=
  cost.blocks / 4

/-- One block of pseudorandom words that do not depend on the password. -/
def addresses (cost : Cost) (pass segment counter : Nat) : Block :=
  let input := Block.ofWords ([pass, 0, segment, cost.blocks, cost.passes, 2, counter].map
    UInt64.ofNat)
  Block.zero.compress (Block.zero.compress input)

/-- The pseudorandom words of a segment that do not depend on the password. -/
def addressWords (cost : Cost) (pass segment : Nat) : Array UInt64 :=
  ((List.range ((cost.segment + 127) / 128)).flatMap fun n =>
    (addresses cost pass segment (n + 1)).words).toArray

/-- Which block a pseudorandom word picks for the block at `index` of a segment: one of those
computed last, the block just before it left out, with a preference for late ones. -/
def reference (cost : Cost) (pass segment index : Nat) (word : UInt64) : Nat :=
  let available :=
    if pass = 0 then segment * cost.segment + index - 1
    else cost.blocks - cost.segment + index - 1
  let low := word &&& 0xffffffff
  let scaled := (UInt64.ofNat available * ((low * low) >>> 32)) >>> 32
  let first := if pass = 0 then 0 else (segment + 1) * cost.segment
  (first + (available - 1 - scaled.toNat)) % cost.blocks

/-- One block computed. -/
def step (cost : Cost) (pass segment : Nat) (words : Option (Array UInt64))
    (memory : Array Block) (index : Nat) : Array Block :=
  let position := segment * cost.segment + index
  let previous := memory.getD ((position + cost.blocks - 1) % cost.blocks) Block.zero
  let word :=
    match words with
    | some words => words.getD index 0
    | none => previous.r0.w0
  let picked := memory.getD (reference cost pass segment index word) Block.zero
  let block := previous.compress picked
  let block := if pass = 0 then block else block.xor (memory.getD position Block.zero)
  memory.setIfInBounds position block

/-- One segment computed. The first two blocks of the memory are left as they are in the first
pass. -/
def fillSegment (cost : Cost) (pass : Nat) (memory : Array Block) (segment : Nat) : Array Block :=
  let words :=
    if pass = 0 ∧ segment < 2 then some (addressWords cost pass segment) else none
  let indices := (List.range cost.segment).drop (if pass = 0 ∧ segment = 0 then 2 else 0)
  indices.foldl (step cost pass segment words) memory

/-- The memory after the last pass. -/
def fill (cost : Cost) (memory : Array Block) : Array Block :=
  (List.range cost.passes).foldl
    (fun memory pass => (List.range 4).foldl (fillSegment cost pass) memory) memory

/-- The key of a password and a salt. -/
def derive (cost : Cost) (password salt : Bytes) : Bytes :=
  let memory := fill cost (start cost password salt)
  stretch cost.keyLength (memory.getD (cost.blocks - 1) Block.zero).toBytes

end Licensing.Argon2
