/-!
# Tokens of JSON documents

A document is cut into tokens, one character after the other. A text between quotes stands for code
units: a character that is written as itself stands for its code point, an escape with four
hexadecimal digits for the number they write. A text whose units are halves of characters is a token
without content.

## Main definitions

* `Json.Token` — a token.
* `Json.characters` — the characters of code units.
* `Json.Mode`, `Json.step` — where in a token the reading stands, and one character more.
* `Json.tokens?` — the tokens of a document.
-/

namespace Licensing.Json

/-- A token of a document. -/
inductive Token where
  | beginObject
  | endObject
  | beginArray
  | endArray
  | colon
  | comma
  /-- A text. Its content is missing if it holds halves of characters. -/
  | text (content : Option String)
  /-- A number, a truth value or nothing, as it is spelled. -/
  | atom (word : String)
  deriving DecidableEq, Repr

/-- The unit is the first half of a character. -/
def isHigh (unit : Nat) : Bool :=
  0xd800 ≤ unit && unit < 0xdc00

/-- The unit is the second half of a character. -/
def isLow (unit : Nat) : Bool :=
  0xdc00 ≤ unit && unit < 0xe000

/-- The characters of code units, if every half has its other half. -/
def characters : List Nat → Option (List Char)
  | [] => some []
  | [unit] => if isHigh unit || isLow unit then none else some [Char.ofNat unit]
  | unit :: next :: rest =>
    if isHigh unit then
      if isLow next then
        (characters rest).map
          (Char.ofNat (0x10000 + (unit - 0xd800) * 0x400 + (next - 0xdc00)) :: ·)
      else none
    else if isLow unit then none
    else (characters (next :: rest)).map (Char.ofNat unit :: ·)

/-- The character may stand between tokens. -/
def isBlank (c : Char) : Bool :=
  c == ' ' || c == '\t' || c == '\n' || c == '\r'

/-- The character may stand in a number, a truth value or nothing. -/
def isWordChar (c : Char) : Bool :=
  c.isAlphanum || c == '+' || c == '-' || c == '.'

/-- What follows a run of digits, if there is one. -/
def skipDigits (word : List Char) : Option (List Char) :=
  if word.head?.any Char.isDigit then some (word.dropWhile Char.isDigit) else none

/-- What follows the whole part of a number. It has no needless zero. -/
def skipWhole (word : List Char) : Option (List Char) :=
  match word with
  | '0' :: rest => some rest
  | _ => skipDigits word

/-- What follows the fraction of a number, which may be missing. -/
def skipFraction (word : List Char) : Option (List Char) :=
  match word with
  | '.' :: rest => skipDigits rest
  | _ => some word

/-- What follows the exponent of a number, which may be missing. -/
def skipExponent (word : List Char) : Option (List Char) :=
  match word with
  | c :: rest =>
    if c = 'e' ∨ c = 'E' then
      match rest with
      | '+' :: rest => skipDigits rest
      | '-' :: rest => skipDigits rest
      | _ => skipDigits rest
    else some word
  | [] => some []

/-- The word is a number. -/
def isNumber (word : List Char) : Bool :=
  let unsigned :=
    match word with
    | '-' :: rest => rest
    | _ => word
  ((skipWhole unsigned).bind skipFraction).bind skipExponent == some []

/-- The token of a word, if it is a number, a truth value or nothing. -/
def atom? (word : List Char) : Option Token :=
  let text := String.ofList word
  if text = "null" ∨ text = "true" ∨ text = "false" ∨ isNumber word then some (.atom text) else none

/-- Where in a token the reading stands. What has been read of the token is kept last first. -/
inductive Mode where
  /-- Before or after a token. -/
  | between
  /-- In a number, a truth value or nothing. -/
  | word (seen : List Char)
  /-- In a text. -/
  | text (seen : List Nat)
  /-- In a text, after a backslash. -/
  | escape (seen : List Nat)
  /-- In a text, with some of the four digits of an escape still to come. -/
  | hex (seen : List Nat) (left value : Nat)
  deriving DecidableEq, Repr

/-- The unit of an escape of one character. -/
def escaped? (c : Char) : Option Nat :=
  if c = '"' ∨ c = '\\' ∨ c = '/' then some c.toNat
  else if c = 'b' then some 0x08
  else if c = 'f' then some 0x0c
  else if c = 'n' then some 0x0a
  else if c = 'r' then some 0x0d
  else if c = 't' then some 0x09
  else none

/-- The value of a hexadecimal digit. -/
def hexDigit? (c : Char) : Option Nat :=
  if c.isDigit then some (c.toNat - '0'.toNat)
  else if 'a' ≤ c ∧ c ≤ 'f' then some (c.toNat - 'a'.toNat + 10)
  else if 'A' ≤ c ∧ c ≤ 'F' then some (c.toNat - 'A'.toNat + 10)
  else none

/-- The token that a mark is. -/
def mark? (c : Char) : Option Token :=
  if c = '\x7b' then some .beginObject
  else if c = '\x7d' then some .endObject
  else if c = '[' then some .beginArray
  else if c = ']' then some .endArray
  else if c = ':' then some .colon
  else if c = ',' then some .comma
  else none

/-- A character between tokens: the token that it is, and where it leads. -/
def start (c : Char) : Option (List Token × Mode) :=
  match mark? c with
  | some token => some ([token], .between)
  | none =>
    if isBlank c then some ([], .between)
    else if c = '"' then some ([], .text [])
    else if isWordChar c then some ([], .word [c])
    else none

/-- One character more: the tokens that end with it, and where it leads. -/
def step (mode : Mode) (c : Char) : Option (List Token × Mode) :=
  match mode with
  | .between => start c
  | .word seen =>
    if isWordChar c then some ([], .word (c :: seen))
    else do
      let token ← atom? seen.reverse
      let (tokens, mode) ← start c
      return (token :: tokens, mode)
  | .text seen =>
    if c = '"' then some ([.text ((characters seen.reverse).map String.ofList)], .between)
    else if c = '\\' then some ([], .escape seen)
    else if c.toNat < 0x20 then none
    else some ([], .text (c.toNat :: seen))
  | .escape seen =>
    if c = 'u' then some ([], .hex seen 4 0)
    else (escaped? c).map fun unit => ([], .text (unit :: seen))
  | .hex seen left value => do
    let digit ← hexDigit? c
    let value := 16 * value + digit
    return ([], if left ≤ 1 then .text (value :: seen) else .hex seen (left - 1) value)

/-- The token that ends with the document. -/
def finish : Mode → Option (List Token)
  | .between => some []
  | .word seen => do return [← atom? seen.reverse]
  | _ => none

/-- The tokens of the rest of a document. -/
def tokensFrom (mode : Mode) : List Char → Option (List Token)
  | [] => finish mode
  | c :: rest => do
    let (tokens, mode) ← step mode c
    let later ← tokensFrom mode rest
    return tokens ++ later

/-- The tokens of a document. -/
def tokens? (document : String) : Option (List Token) :=
  tokensFrom .between document.toList

end Licensing.Json
