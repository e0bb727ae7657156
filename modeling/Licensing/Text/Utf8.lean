import Licensing.Bytes

/-!
# Reading UTF-8

Byte strings that are meant to be texts. What is not UTF-8 is refused with the place of the first
sequence that cannot be completed.

## Main definitions

* `Utf8.decode` — the text of a byte string, or the first fault.
* `Utf8.Fault.message` — the wording of a fault.

## Main results

* `Utf8.decode_ofText` — the bytes of a text read back as the text.
* `Utf8.eq_ofText_of_decode` — only the bytes of a text read as that text.
-/

namespace Licensing.Utf8

/-- Where a byte string stops being UTF-8. -/
structure Fault where
  /-- The length of the longest part at the start that is a text. -/
  valid : Nat
  /-- How many bytes from there are the start of a sequence that the next byte breaks, or are no
  start at all. It is missing if the bytes end before the sequence does. -/
  broken : Option Nat
  deriving DecidableEq, Repr

/-- The wording of a fault. -/
def Fault.message (fault : Fault) : String :=
  match fault.broken with
  | some n => s!"invalid utf-8 sequence of {n} bytes from index {fault.valid}"
  | none => s!"incomplete utf-8 byte sequence from index {fault.valid}"

/-- The least and the greatest byte that may stand at a place. -/
structure Range where
  low : UInt8
  high : UInt8
  deriving DecidableEq, Repr

/-- A byte that continues a sequence. -/
def tail : Range :=
  ⟨0x80, 0xbf⟩

/-- What has to follow a byte that starts a sequence. -/
def expected? (first : UInt8) : Option (List Range) :=
  if first < 0x80 then some []
  else if first < 0xc2 then none
  else if first < 0xe0 then some [tail]
  else if first = 0xe0 then some [⟨0xa0, 0xbf⟩, tail]
  else if first = 0xed then some [⟨0x80, 0x9f⟩, tail]
  else if first < 0xf0 then some [tail, tail]
  else if first = 0xf0 then some [⟨0x90, 0xbf⟩, tail, tail]
  else if first < 0xf4 then some [tail, tail, tail]
  else if first = 0xf4 then some [⟨0x80, 0x8f⟩, tail, tail]
  else none

/-- The first fault of a byte string. The bytes before `start` are texts, those from there to
`start + seen` start a sequence that the ranges `expected` have to complete. Bytes that end between
two sequences count as ending inside one. -/
def faultFrom (start seen : Nat) (expected : List Range) : Bytes → Fault
  | [] => ⟨start, none⟩
  | byte :: bytes =>
    match expected with
    | [] =>
      match expected? byte with
      | none => ⟨start + seen, some 1⟩
      | some expected => faultFrom (start + seen) 1 expected bytes
    | range :: ranges =>
      if range.low ≤ byte ∧ byte ≤ range.high then faultFrom start (seen + 1) ranges bytes
      else ⟨start, some seen⟩

/-- The first fault of bytes that are not UTF-8. -/
def fault (bytes : Bytes) : Fault :=
  faultFrom 0 0 [] bytes

/-- The text of a byte string, or the first fault. -/
def decode (bytes : Bytes) : Except Fault String :=
  match String.fromUTF8? ⟨bytes.toArray⟩ with
  | some text => .ok text
  | none => .error (fault bytes)

/-- The bytes of a text read back as the text. -/
@[simp] theorem decode_ofText (text : String) : decode (Bytes.ofText text) = .ok text := by
  have valid : ByteArray.IsValidUTF8 ⟨(Bytes.ofText text).toArray⟩ := text.isValidUTF8
  have read : String.fromUTF8? ⟨(Bytes.ofText text).toArray⟩ = some text := dif_pos valid
  rw [decode, read]

/-- Only the bytes of a text read as that text. -/
theorem eq_ofText_of_decode {bytes : Bytes} {text : String} (h : decode bytes = .ok text) :
    bytes = Bytes.ofText text := by
  unfold decode at h
  split at h
  · next read =>
    cases h
    unfold String.fromUTF8? at read
    split at read
    · cases read
      simp [Bytes.ofText, String.fromUTF8]
    · cases read
  · cases h

end Licensing.Utf8
