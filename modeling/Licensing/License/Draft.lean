import Licensing.License.Basic
import Licensing.Text.Blank

/-!
# Drafts of licenses

A license is made from settings, one after the other. None of them fails: the first value that no
license can have is remembered as the reason why there will be no license, whatever is set after it.

## Main definitions

* `Setting` — one value for a license in the making.
* `Draft` — what is settled so far, with `Draft.set` for one more setting.
* `Draft.finish` — the license, if nothing is missing.
* `License.build` — the license of a list of settings.
* `License.ofSettings` — the same for settings that are read from a form.
* `License.settings` — the settings that give a license back, its features left out.

## Implementation notes

A later setting of one value replaces an earlier one; features add up. A text that is refused leaves
its field without a value, a date that is refused is taken over all the same, and a feature that is
refused is not added. None of this shows, since there is no license after a refusal.
-/

namespace Licensing

/-- One value for a license in the making. -/
inductive Setting where
  | productKey (key : String)
  | holder (name : String)
  | issuer (name : String)
  | subject (name : String)
  | issueDate (date : Int64)
  | goodAfterDate (date : Int64)
  | goodBeforeDate (date : Int64)
  | seats (count : UInt32)
  | feature (feature : Feature)
  deriving DecidableEq, Repr

/-- What is settled of a license in the making. -/
structure Draft where
  productKey : String
  holder : Option String
  issuer : Option String
  subject : Option String
  issueDate : Int64
  goodAfterDate : Int64
  goodBeforeDate : Int64
  seats : Option UInt32
  features : List Feature
  /-- Why the first value that was refused was refused. -/
  refusal : Option Rejection
  deriving DecidableEq, Repr

/-- The character encloses a field of the text form. -/
def isBracket (c : Char) : Bool :=
  c == '[' || c == ']'

/-- The character has a meaning in the list of features of the text form. -/
def isReserved (c : Char) : Bool :=
  isBracket c || c == ','

/-- A text that is neither blank nor holds a bracket. -/
def checkText (field : Field) (text : String) : Except Rejection String :=
  if Text.isBlank text then .error ⟨field, .blank⟩
  else if text.toList.any isBracket then .error ⟨field, .bracket⟩
  else .ok text

/-- A date that is not before the start of 1970. -/
def checkDate (field : Field) (date : Int64) : Except Rejection Int64 :=
  if date < 0 then .error ⟨field, .negative date⟩ else .ok date

/-- A feature whose name is neither blank nor reserved nor taken and that does not end before the
start of 1970. -/
def checkFeature (present : List Feature) (f : Feature) : Except Rejection Feature :=
  if Text.isBlank f.name then .error ⟨.features, .featureBlank⟩
  else if f.name.toList.any isReserved then .error ⟨.features, .featureReserved f.name⟩
  else if f.expiry < 0 && !f.neverExpires then .error ⟨.features, .featureNegative f.name⟩
  else if present.any (·.name == f.name) then .error ⟨.features, .featureRepeated f.name⟩
  else .ok f

namespace Draft

/-- The draft with nothing settled: the key is empty and the dates are the start of 1970. -/
def blank : Draft :=
  ⟨"", none, none, none, 0, 0, 0, none, [], none⟩

/-- The draft after a value was looked at. If it is the first one to be refused, the reason is
remembered. -/
def note {α : Type} (d : Draft) : Except Rejection α → Draft
  | .ok _ => d
  | .error rejection => { d with refusal := d.refusal.or (some rejection) }

/-- The draft after one more setting. -/
def set (d : Draft) : Setting → Draft
  | .productKey key => { d with productKey := key }
  | .holder name =>
    let name := checkText .holder name
    { d.note name with holder := name.toOption }
  | .issuer name =>
    let name := checkText .issuer name
    { d.note name with issuer := name.toOption }
  | .subject name =>
    let name := checkText .subject name
    { d.note name with subject := name.toOption }
  | .issueDate date => { d.note (checkDate .issueDate date) with issueDate := date }
  | .goodAfterDate date => { d.note (checkDate .goodAfterDate date) with goodAfterDate := date }
  | .goodBeforeDate date => { d.note (checkDate .goodBeforeDate date) with goodBeforeDate := date }
  | .seats count => { d with seats := some count }
  | .feature f =>
    let f := checkFeature d.features f
    { d.note f with features := d.features ++ f.toOption.toList }

/-- A value that has to be settled. -/
def require {α : Type} (field : Field) : Option α → Except Rejection α
  | some value => .ok value
  | none => .error ⟨field, .missing⟩

/-- Fails if a value was refused. -/
def checkRefusal (d : Draft) : Except Rejection Unit :=
  match d.refusal with
  | some rejection => .error rejection
  | none => .ok ()

/-- The license of a draft, if nothing was refused and nothing is missing. -/
def finish (d : Draft) : Except Rejection License := do
  d.checkRefusal
  let issuer ← require .issuer d.issuer
  let holder ← require .holder d.holder
  let subject ← require .subject d.subject
  let seats ← require .seats d.seats
  return ⟨d.productKey, holder, issuer, subject, d.issueDate, d.goodAfterDate, d.goodBeforeDate,
    seats, d.features⟩

end Draft

namespace License

/-- The license of a list of settings. -/
def build (settings : List Setting) : Except Rejection License :=
  (settings.foldl Draft.set Draft.blank).finish

/-- The license of a list of settings that a form of licenses gives. -/
def ofSettings (settings : List Setting) : Except FormatFault License :=
  match build settings with
  | .ok l => .ok l
  | .error rejection => .error (.rejected rejection)

/-- The settings that give a license back, its features left out. -/
def settings (l : License) : List Setting :=
  [.productKey l.productKey, .holder l.holder, .issuer l.issuer, .subject l.subject,
   .issueDate l.issueDate, .goodAfterDate l.goodAfterDate, .goodBeforeDate l.goodBeforeDate,
   .seats l.seats]

/-- The settings that give a license back. -/
def allSettings (l : License) : List Setting :=
  l.settings ++ l.features.map .feature

end License

end Licensing
