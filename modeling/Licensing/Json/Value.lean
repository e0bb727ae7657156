import Licensing.Json.Token

/-!
# Values of JSON documents

The value that a document writes. The tokens are read one after the other, while a stack holds the
arrays and objects that are open.

## Main definitions

* `Json.Value` — a value.
* `Json.Frame`, `Json.Expected` — an open array or object, and what may come next.
* `Json.Value.ofDocument?` — the value of a document.
* `Json.Value.text?`, `Json.member?` — the content of a text, and the one member of a name.
-/

namespace Licensing.Json

/-- A value of a document. -/
inductive Value where
  /-- A number, a truth value or nothing, as it is spelled. -/
  | atom (word : String)
  /-- A text. Its content is missing if it holds halves of characters. -/
  | text (content : Option String)
  | array (items : List Value)
  | object (members : List (Option String × Value))

/-- An array or an object that is open. What it holds is kept last first. -/
inductive Frame where
  | array (items : List Value)
  | object (members : List (Option String × Value))
  /-- An object with the name of a member whose value is to come. -/
  | member (members : List (Option String × Value)) (name : Option String)

/-- What may come next. -/
inductive Expected where
  | value
  /-- A value or the end of an array that has just begun. -/
  | firstItem
  | name
  /-- A name or the end of an object that has just begun. -/
  | firstName
  | colon
  /-- A comma, or the end of the array or object that is open. -/
  | more
  /-- Nothing: the document is this value. -/
  | nothing (document : Value)

/-- A value has been read. -/
def deliver (value : Value) : List Frame → Option (List Frame × Expected)
  | [] => some ([], .nothing value)
  | .array items :: outer => some (.array (value :: items) :: outer, .more)
  | .member members name :: outer => some (.object ((name, value) :: members) :: outer, .more)
  | .object _ :: _ => none

/-- A token where a value may come. -/
def beginValue (stack : List Frame) : Token → Option (List Frame × Expected)
  | .beginObject => some (.object [] :: stack, .firstName)
  | .beginArray => some (.array [] :: stack, .firstItem)
  | .text content => deliver (.text content) stack
  | .atom word => deliver (.atom word) stack
  | _ => none

/-- The end of an array. -/
def endArray : List Frame → Option (List Frame × Expected)
  | .array items :: outer => deliver (.array items.reverse) outer
  | _ => none

/-- The end of an object. -/
def endObject : List Frame → Option (List Frame × Expected)
  | .object members :: outer => deliver (.object members.reverse) outer
  | _ => none

/-- The name of a member. -/
def beginMember (name : Option String) : List Frame → Option (List Frame × Expected)
  | .object members :: outer => some (.member members name :: outer, .colon)
  | _ => none

/-- A comma. -/
def another : List Frame → Option (List Frame × Expected)
  | .array items :: outer => some (.array items :: outer, .value)
  | .object members :: outer => some (.object members :: outer, .name)
  | _ => none

/-- One token more. -/
def advance : List Frame × Expected → Token → Option (List Frame × Expected)
  | (stack, .firstItem), .endArray => endArray stack
  | (stack, .firstItem), token => beginValue stack token
  | (stack, .value), token => beginValue stack token
  | (stack, .firstName), .endObject => endObject stack
  | (stack, .firstName), .text name => beginMember name stack
  | (stack, .name), .text name => beginMember name stack
  | (stack, .colon), .colon => some (stack, .value)
  | (stack, .more), .comma => another stack
  | (stack, .more), .endArray => endArray stack
  | (stack, .more), .endObject => endObject stack
  | _, _ => none

namespace Value

/-- The value of tokens. -/
def ofTokens? (tokens : List Token) : Option Value := do
  match ← tokens.foldlM advance ([], .value) with
  | ([], .nothing document) => some document
  | _ => none

/-- The value of a document. -/
def ofDocument? (document : String) : Option Value :=
  (tokens? document).bind ofTokens?

/-- The content of a text. -/
def text? : Value → Option String
  | .text content => content
  | _ => none

end Value

/-- The value of a name that exactly one member has. -/
def member? (name : String) (members : List (Option String × Value)) : Option Value :=
  match members.filter (·.1 == some name) with
  | [(_, value)] => some value
  | _ => none

end Licensing.Json
