import Licensing.Bytes

/-!
# Base64 with padding

The standard alphabet, three bytes to four symbols, the last group filled up with `=`. Reading is
strict: the padding must be there, must end the text, and the bits it leaves unused must be zero, so
that every byte string has one text.

## Main definitions

* `Base64.encode` — the text of a byte string.
* `Base64.decode` — the byte string of a text, or the first fault.
* `Base64.Fault.message` — the wording of a fault.

## Main results

* `Base64.valueOf?_symbolOf`, `Base64.symbolOf_of_valueOf?` — symbols and numbers below sixty-four
  belong together one to one.

## Implementation notes

Texts are read as their UTF-8 bytes, and faults name byte offsets. All groups but the last are read
before the last one is looked at, except that a lone last byte outside the alphabet is reported
first.
-/

namespace Licensing.Base64

/-- Why a text is not the Base64 form of a byte string. -/
inductive Fault where
  /-- A byte that may not stand at this offset. -/
  | symbol (byte : UInt8) (offset : Nat)
  /-- The last group holds fewer than two symbols. -/
  | length (symbols : Nat)
  /-- Symbols and padding of the last group do not make four. -/
  | padding
  /-- The last symbol sets bits that no byte uses. -/
  | lastSymbol (byte : UInt8) (offset : Nat)
  deriving DecidableEq, Repr

/-- The wording of a fault. -/
def Fault.message : Fault → String
  | symbol byte offset => s!"Invalid symbol {byte.toNat}, offset {offset}."
  | length symbols => s!"Invalid input length: {symbols}"
  | padding => "Invalid padding"
  | lastSymbol byte offset => s!"Invalid last symbol {byte.toNat}, offset {offset}."

/-- The padding byte. -/
def pad : UInt8 := '='.toUInt8

/-- The symbol of a number below sixty-four. -/
def symbolOf (n : Nat) : UInt8 :=
  if n < 26 then UInt8.ofNat ('A'.toNat + n)
  else if n < 52 then UInt8.ofNat ('a'.toNat + (n - 26))
  else if n < 62 then UInt8.ofNat ('0'.toNat + (n - 52))
  else if n = 62 then '+'.toUInt8
  else '/'.toUInt8

/-- The number that a symbol stands for. -/
def valueOf? (byte : UInt8) : Option Nat :=
  let n := byte.toNat
  if 'A'.toNat ≤ n ∧ n ≤ 'Z'.toNat then some (n - 'A'.toNat)
  else if 'a'.toNat ≤ n ∧ n ≤ 'z'.toNat then some (n - 'a'.toNat + 26)
  else if '0'.toNat ≤ n ∧ n ≤ '9'.toNat then some (n - '0'.toNat + 52)
  else if n = '+'.toNat then some 62
  else if n = '/'.toNat then some 63
  else none

/-- The symbols and the padding of a byte string. -/
def symbols : Bytes → Bytes
  | a :: b :: c :: rest =>
    let n := a.toNat * 65536 + b.toNat * 256 + c.toNat
    symbolOf (n / 262144) :: symbolOf (n / 4096 % 64) :: symbolOf (n / 64 % 64) ::
      symbolOf (n % 64) :: symbols rest
  | [a, b] =>
    let n := a.toNat * 1024 + b.toNat * 4
    [symbolOf (n / 4096), symbolOf (n / 64 % 64), symbolOf (n % 64), pad]
  | [a] =>
    let n := a.toNat * 16
    [symbolOf (n / 64), symbolOf (n % 64), pad, pad]
  | [] => []

/-- The text of a byte string. -/
def encode (bytes : Bytes) : String :=
  String.ofList ((symbols bytes).map fun byte => Char.ofNat byte.toNat)

/-- The number that the symbol at an offset stands for. -/
def value (byte : UInt8) (offset : Nat) : Except Fault Nat :=
  match valueOf? byte with
  | some n => .ok n
  | none => .error (.symbol byte offset)

/-- The leading symbols of the last group and the number of padding bytes after them. A group starts
with two symbols, and nothing but padding follows padding; `index` counts from the start of the
group, and `padded` is the offset of the first padding byte. -/
def lastSymbols (start : Nat) : (index : Nat) → (padded : Option Nat) → Bytes →
    Except Fault (List Nat × Nat)
  | _, _, [] => .ok ([], 0)
  | index, padded, byte :: rest =>
    if byte = pad then
      if index < 2 then .error (.symbol pad (start + index))
      else do
        let (values, count) ← lastSymbols start (index + 1) (padded.or (some (start + index))) rest
        return (values, count + 1)
    else
      match padded with
      | some offset => .error (.symbol pad offset)
      | none => do
        let n ← value byte (start + index)
        let (values, count) ← lastSymbols start (index + 1) none rest
        return (n :: values, count)

/-- The last group, of at most four bytes, that starts at an offset. -/
def decodeLast (start : Nat) (group : Bytes) : Except Fault Bytes := do
  let (values, padding) ← lastSymbols start 0 none group
  if group = [] then
    return []
  else if values.length < 2 then
    throw (.length (start + values.length))
  else if values.length + padding ≠ 4 then
    throw .padding
  else
    match values with
    | [s, t] =>
      if t % 16 ≠ 0 then throw (.lastSymbol (group.getD 1 0) (start + 1))
      else return [UInt8.ofNat (s * 4 + t / 16)]
    | [s, t, u] =>
      if u % 4 ≠ 0 then throw (.lastSymbol (group.getD 2 0) (start + 2))
      else return [UInt8.ofNat (s * 4 + t / 16), UInt8.ofNat (t % 16 * 16 + u / 4)]
    | s :: t :: u :: v :: _ =>
      return [UInt8.ofNat (s * 4 + t / 16), UInt8.ofNat (t % 16 * 16 + u / 4),
        UInt8.ofNat (u % 4 * 64 + v)]
    | _ => return []

/-- The groups of a text from an offset on. A group is the last one when no byte follows it. -/
def decodeFrom (start : Nat) : Bytes → Except Fault Bytes
  | a :: b :: c :: d :: e :: rest => do
    let s ← value a start
    let t ← value b (start + 1)
    let u ← value c (start + 2)
    let v ← value d (start + 3)
    let bytes ← decodeFrom (start + 4) (e :: rest)
    return UInt8.ofNat (s * 4 + t / 16) :: UInt8.ofNat (t % 16 * 16 + u / 4) ::
      UInt8.ofNat (u % 4 * 64 + v) :: bytes
  | group => decodeLast start group

/-- The fault of a lone last byte that is neither a symbol nor padding. -/
def strayLast? (text : Bytes) : Option Fault :=
  match text.getLast? with
  | some byte =>
    if text.length % 4 = 1 ∧ byte ≠ pad ∧ (valueOf? byte).isNone then
      some (.symbol byte (text.length - 1))
    else none
  | none => none

/-- The byte string of a text, or the first fault. -/
def decode (text : String) : Except Fault Bytes :=
  let bytes := Bytes.ofText text
  match strayLast? bytes with
  | some fault => .error fault
  | none => decodeFrom 0 bytes

/-- The symbol of a number stands for the number. -/
theorem valueOf?_symbolOf : ∀ n, n < 64 → valueOf? (symbolOf n) = some n := by
  decide +kernel

/-- A byte that stands for a number is the symbol of the number. -/
theorem symbolOf_of_valueOf? {byte : UInt8} {n : Nat} (h : valueOf? byte = some n) :
    n < 64 ∧ symbolOf n = byte := by
  have all : ∀ m, m < 256 →
      ∀ n ∈ valueOf? (UInt8.ofNat m), n < 64 ∧ symbolOf n = UInt8.ofNat m := by
    decide +kernel
  have one := all byte.toNat byte.toNat_lt n
  rw [UInt8.ofNat_toNat] at one
  exact one h

end Licensing.Base64
