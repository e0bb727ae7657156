import Licensing.Text.Blank

/-!
# Reading a text from its start

Readers take some characters off the start of a text, or fail.

## Main definitions

* `Reader` — a reader of values.
* `Reader.char`, `Reader.skipSpace`, `Reader.number` — the readers of one character, of white space
  and of a run of digits.
* `Reader.all` — what a reader makes of a whole text.
-/

namespace Licensing

/-- Takes some characters off the start of a text, or fails. -/
abbrev Reader : Type → Type :=
  StateT (List Char) Option

namespace Reader

/-- The next character, which has to be the given one. -/
def char (c : Char) : Reader Unit := fun text =>
  match text with
  | first :: rest => if first = c then some ((), rest) else none
  | [] => none

/-- The next character, which has to be one of the given ones. -/
def oneOf (choices : List Char) : Reader Unit := fun text =>
  match text with
  | first :: rest => if choices.contains first then some ((), rest) else none
  | [] => none

/-- All characters with a property, up to the first one without. -/
def skipWhile (property : Char → Bool) : Reader Unit := fun text =>
  some ((), text.dropWhile property)

/-- All white space up to the next other character. -/
def skipSpace : Reader Unit :=
  skipWhile Text.isSpace

/-- The digits up to the next other character, but at most `limit` of them if there is a limit. -/
def digits (limit : Option Nat) : Reader (List Char) := fun text =>
  let run := ((limit.map text.take).getD text).takeWhile Char.isDigit
  some (run, text.drop run.length)

/-- The number of a run of at least `least` digits. -/
def number (least : Nat) (limit : Option Nat) : Reader Nat := do
  let run ← digits limit
  if run.length < least then failure
  return Nat.ofDigitChars 10 run 0

/-- What a reader makes of a whole text. -/
def all {α : Type} (reader : Reader α) (text : String) : Option α :=
  match reader text.toList with
  | some (value, []) => some value
  | _ => none

end Reader

end Licensing
