import Licensing.License.Draft

/-!
# The text form of licenses

A license as eight fields in brackets: holder, issuer, subject, the three dates, the seats and the
names of the features, these separated by a comma and a space. The product key and the expiries of
the features are not part of it.

## Main definitions

* `License.toText` — the text form.
* `TextForm.splitFields`, `TextForm.splitNames` — the fields of a text and the names of its last
  one.
* `License.ofText` — the license of a text.
* `License.ofTextBytes` — the license of a text given by its bytes.

## Implementation notes

Reading takes numbers with a sign and with leading zeros; writing does not use them.

Features that cannot be trusted would be written as `<tampered>`, in the place of their names. The
features of a license can always be trusted, and `License.toText` leaves this out; `License.display`
has it.
-/

namespace Licensing

namespace TextForm

/-- A field of the text form. -/
def enclose (body : List Char) : List Char :=
  '[' :: body ++ [']']

/-- Names one after the other, separated by a comma and a space. -/
def joinNames (names : List (List Char)) : List Char :=
  [',', ' '].intercalate names

/-- The bodies of the fields of a text. The first argument is the number of the next field, counted
from one, or of the open one; the second one is the body of the open field so far, its last
character first. -/
def fieldsFrom (number : Nat) : Option (List Char) → List Char →
    Except FormatFault (List (List Char))
  | none, [] => .ok []
  | none, c :: rest =>
    if c = '[' then fieldsFrom number (some []) rest else .error (.unopened number)
  | some _, [] => .error (.unclosed number)
  | some body, c :: rest =>
    if c = ']' then
      if body.contains '[' then .error (.nested number)
      else do
        let fields ← fieldsFrom (number + 1) none rest
        return body.reverse :: fields
    else fieldsFrom number (some (c :: body)) rest

/-- The bodies of the fields of a text. -/
def splitFields (text : List Char) : Except FormatFault (List (List Char)) :=
  fieldsFrom 1 none text

/-- The pieces of a text between commas that a space follows. -/
def splitNames : List Char → List (List Char)
  | [] => [[]]
  | ',' :: ' ' :: rest => [] :: splitNames rest
  | c :: rest =>
    match splitNames rest with
    | [] => [[c]]
    | first :: others => (c :: first) :: others

/-- The names of the features in the last field. -/
def featureNames (body : List Char) : List String :=
  if body.isEmpty then [] else (splitNames body).map String.ofList

/-- The number of a field. -/
def readNumber {α : Type} (read : String → Option α) (field : Field) (body : List Char) :
    Except FormatFault α :=
  match read (String.ofList body) with
  | some n => .ok n
  | none => .error (.number field (String.ofList body))

end TextForm

namespace License

open TextForm

/-- The bodies of the eight fields. -/
def textFields (l : License) : List (List Char) :=
  [l.holder.toList, l.issuer.toList, l.subject.toList,
   (Numeral.ofInt l.issueDate.toInt).toList,
   (Numeral.ofInt l.goodAfterDate.toInt).toList,
   (Numeral.ofInt l.goodBeforeDate.toInt).toList,
   (Numeral.ofNat l.seats.toNat).toList,
   joinNames (l.features.map (·.name.toList))]

/-- The text form of a license. -/
def toText (l : License) : String :=
  String.ofList (l.textFields.flatMap enclose)

/-- The bytes of the text form. -/
def toTextBytes (l : License) : Bytes :=
  Bytes.ofText l.toText

/-- The license of the bodies of eight fields. -/
def ofTextFields : List (List Char) → Except FormatFault License
  | [holder, issuer, subject, issueDate, goodAfterDate, goodBeforeDate, seats, features] => do
    let issueDate ← readNumber Numeral.int64? .issueDate issueDate
    let goodAfterDate ← readNumber Numeral.int64? .goodAfterDate goodAfterDate
    let goodBeforeDate ← readNumber Numeral.int64? .goodBeforeDate goodBeforeDate
    let seats ← readNumber Numeral.uint32? .seats seats
    ofSettings <|
      [.holder (String.ofList holder), .issuer (String.ofList issuer),
       .subject (String.ofList subject), .issueDate issueDate, .goodAfterDate goodAfterDate,
       .goodBeforeDate goodBeforeDate, .seats seats] ++
      (featureNames features).map fun name => .feature (.lasting name)
  | fields => .error (.fieldCount fields.length)

/-- The license of a text. -/
def ofText (text : String) : Except FormatFault License := do
  let fields ← splitFields text.toList
  ofTextFields fields

/-- The license of a text given by its bytes. -/
def ofTextBytes (bytes : Bytes) : Except FormatFault License :=
  match Utf8.decode bytes with
  | .ok text => ofText text
  | .error fault => .error (.textUtf8 fault)

end License

end Licensing
