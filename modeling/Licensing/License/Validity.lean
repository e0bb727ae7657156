import Licensing.License.Basic

/-!
# When a license is valid

A license is valid from one of its dates on until just before another one.

## Main definitions

* `Validity` — how a time stands to the dates of a license.
* `License.validity` — the same for one license.
* `License.validateAt` — fails unless the license is valid at a time.
* `Validator` — any other check of a license at a time.
-/

namespace Licensing

/-- How a time stands to the dates of a license. -/
inductive Validity where
  | notYetValid
  | valid
  | expired
  deriving DecidableEq, Repr

/-- The name of a validity. -/
def Validity.name : Validity → String
  | notYetValid => "NotYetValid"
  | valid => "Valid"
  | expired => "Expired"

namespace License

/-- How a time stands to the dates of a license. The first date is looked at first, and a license
whose dates are out of order is valid at no time. -/
def validity (l : License) (now : Int64) : Validity :=
  if now < l.goodAfterDate then .notYetValid
  else if l.goodBeforeDate ≤ now then .expired
  else .valid

/-- The license in messages. -/
def description (l : License) : String :=
  l.subject ++ " license for " ++ l.holder

/-- Fails unless the license is valid at a time. -/
def validateAt (l : License) (now : Int64) : Except Error Unit :=
  match l.validity now with
  | .valid => .ok ()
  | .notYetValid => .error (.notYetValid l.description l.goodAfterDate)
  | .expired => .error (.expired l.description l.goodBeforeDate)

end License

/-- A check of a license at a time. -/
abbrev Validator : Type :=
  License → Int64 → Except Error Unit

namespace Validator

/-- The check of the dates. -/
def dates : Validator :=
  License.validateAt

/-- The check of the dates as diagnostics show it. -/
def describeDates : String :=
  Text.record "DefaultLicenseValidator" false []

end Validator

end Licensing
