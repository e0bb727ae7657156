import Licensing.Bytes.Hex

/-!
# Writing JSON documents

Texts between quotes, and objects with a member on each line.

## Main definitions

* `Json.quote` — a text between quotes.
* `Json.object` — an object whose members are written already.
-/

namespace Licensing.Json

/-- The form of a character between quotes: a quote, a backslash and the controls are escaped. -/
def escape (c : Char) : List Char :=
  if c = '"' then ['\\', '"']
  else if c = '\\' then ['\\', '\\']
  else if c = '\x08' then ['\\', 'b']
  else if c = '\t' then ['\\', 't']
  else if c = '\n' then ['\\', 'n']
  else if c = '\x0c' then ['\\', 'f']
  else if c = '\r' then ['\\', 'r']
  else if c.toNat < 0x20 then
    ['\\', 'u', '0', '0', Hex.digit (c.toNat / 16), Hex.digit (c.toNat % 16)]
  else [c]

/-- A text between quotes. -/
def quote (text : String) : String :=
  String.ofList (['"'] ++ text.toList.flatMap escape ++ ['"'])

/-- An object whose members are written already, one on each line. -/
def object (members : List (String × String)) : String :=
  let lines := members.map fun (name, value) => "  " ++ quote name ++ ": " ++ value
  "\x7b\n" ++ ",\n".intercalate lines ++ "\n\x7d"

end Licensing.Json
