import Licensing.Bytes

/-!
# Hexadecimal digits

Byte strings written with two lowercase hexadecimal digits a byte, the high half first.

## Main definitions

* `Hex.encode` — the text of a byte string.
-/

namespace Licensing.Hex

/-- The lowercase hexadecimal digit of a number below sixteen. -/
def digit (n : Nat) : Char :=
  Char.ofNat (if n < 10 then '0'.toNat + n else 'a'.toNat + (n - 10))

/-- The digits of a byte string. -/
def digits (bytes : Bytes) : List Char :=
  bytes.flatMap fun byte => [digit (byte.toNat / 16), digit (byte.toNat % 16)]

/-- The text of a byte string. -/
def encode (bytes : Bytes) : String :=
  String.ofList (digits bytes)

theorem length_digits (bytes : Bytes) : (digits bytes).length = 2 * bytes.length := by
  induction bytes with
  | nil => rfl
  | cons byte bytes ih =>
    simp only [digits, List.flatMap_cons, List.length_append, List.length_cons, List.length_nil]
    simp only [digits] at ih
    omega

end Licensing.Hex
