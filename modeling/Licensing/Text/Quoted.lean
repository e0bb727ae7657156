import Licensing.Text.Unprintable

/-!
# Quoted texts

Texts in double quotes, for diagnostics. A quote, a backslash and the common controls stand behind a
backslash; every other character without a picture of its own is shown by its number.

## Main definitions

* `Text.quote` — the text in quotes.
* `Text.bracketed` — shown items between two brackets, separated by commas.
* `Text.record` — a named record of shown fields.
-/

namespace Licensing.Text

/-- The lowercase hexadecimal digits of a number, without leading zeros. -/
def hexDigits (n : Nat) : List Char :=
  Nat.toDigits 16 n

/-- The form of a character between quotes. -/
def escape (c : Char) : List Char :=
  if c = '\x00' then ['\\', '0']
  else if c = '\t' then ['\\', 't']
  else if c = '\r' then ['\\', 'r']
  else if c = '\n' then ['\\', 'n']
  else if c = '\\' then ['\\', '\\']
  else if c = '"' then ['\\', '"']
  else if isUnprintable c then ['\\', 'u', '\x7b'] ++ hexDigits c.toNat ++ ['\x7d']
  else [c]

/-- The text in quotes. -/
def quote (text : String) : String :=
  String.ofList (['"'] ++ text.toList.flatMap escape ++ ['"'])

/-- Shown items between two brackets, separated by commas. -/
def bracketed (first last : String) (items : List String) : String :=
  first ++ ", ".intercalate items ++ last

/-- A named record of shown fields. A record that is not `complete` ends in two dots. -/
def record (name : String) (complete : Bool) (fields : List (String × String)) : String :=
  let shown := fields.map fun (field, value) => field ++ ": " ++ value
  let shown := if complete then shown else shown ++ [".."]
  name ++ " \x7b " ++ ", ".intercalate shown ++ " \x7d"

end Licensing.Text
