import Licensing.Bytes

/-!
# Tagged elements

The distinguished encoding of structured data: an element is a tag, the length of its content and
the content. A length has the fewest bytes that hold it.

## Main definitions

* `Der.encode` — an element.
* `Der.element?` — the element at the start of a byte string, and what follows it.
* `Der.expect?`, `Der.only?` — the same for an element of a given tag, followed by anything or by
  nothing.
-/

namespace Licensing.Der

/-- The tag of numbers. -/
def integer : UInt8 := 0x02

/-- The tag of strings of bits. -/
def bitString : UInt8 := 0x03

/-- The tag of byte strings. -/
def octetString : UInt8 := 0x04

/-- The tag of the names of algorithms. -/
def objectIdentifier : UInt8 := 0x06

/-- The tag of elements one after the other. -/
def sequence : UInt8 := 0x30

/-- The tags with a meaning of their own. -/
def universal : List UInt8 :=
  [0x01, 0x02, 0x03, 0x04, 0x05, 0x06, 0x09, 0x0a, 0x0c, 0x12, 0x13, 0x14, 0x15, 0x16, 0x17, 0x18,
   0x1a, 0x1e, 0x30, 0x31]

/-- The byte is a tag. From `0x40` on the meaning of a tag depends on where it stands, and its
lowest five bits are a number below thirty-one. -/
def isTag (byte : UInt8) : Bool :=
  if byte < 0x40 then universal.contains byte else byte &&& 0x1f != 0x1f

/-- The fewest bytes of a number, the most significant first. -/
def digits (n : Nat) : Bytes :=
  if n < 256 then [UInt8.ofNat n] else digits (n / 256) ++ [UInt8.ofNat n]
termination_by n

/-- The bytes of a length. -/
def encodeLength (n : Nat) : Bytes :=
  if n < 128 then [UInt8.ofNat n]
  else UInt8.ofNat (128 + (digits n).length) :: digits n

/-- An element. -/
def encode (tag : UInt8) (content : Bytes) : Bytes :=
  tag :: encodeLength content.length ++ content

/-- The length at the start of a byte string, and what follows it. -/
def length? : Bytes → Option (Nat × Bytes)
  | [] => none
  | first :: rest =>
    if first < 128 then some (first.toNat, rest)
    else
      let count := first.toNat - 128
      let n := Bytes.ofBigEndian (rest.take count)
      if 1 ≤ count ∧ count ≤ 4 ∧ count ≤ rest.length ∧ 128 ≤ n ∧ rest.head? ≠ some 0 ∧
          n < 0x10000000 then
        some (n, rest.drop count)
      else none

/-- An element: its tag and its content. -/
structure Element where
  tag : UInt8
  content : Bytes
  deriving DecidableEq, Repr

/-- The element at the start of a byte string, and what follows it. -/
def element? : Bytes → Option (Element × Bytes)
  | [] => none
  | tag :: rest => do
    let (n, rest) ← length? rest
    if isTag tag ∧ n ≤ rest.length then some (⟨tag, rest.take n⟩, rest.drop n) else none

/-- The content of the element at the start of a byte string, which has to have the tag, and what
follows the element. -/
def expect? (tag : UInt8) (bytes : Bytes) : Option (Bytes × Bytes) := do
  let (e, rest) ← element? bytes
  if e.tag = tag then some (e.content, rest) else none

/-- The content of an element with the tag that is all of a byte string. -/
def only? (tag : UInt8) (bytes : Bytes) : Option Bytes := do
  let (content, rest) ← expect? tag bytes
  if rest = [] then some content else none

end Licensing.Der
