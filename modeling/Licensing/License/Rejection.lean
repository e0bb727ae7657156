import Licensing.Text.Numeral

/-!
# Rejected values

Why a value cannot become part of a license.

## Main definitions

* `Field` — the parts of a license that have conditions.
* `Reason` — the conditions that a value can break.
* `Rejection` — a field and the condition that its value breaks.
-/

namespace Licensing

/-- The parts of a license that have conditions. -/
inductive Field where
  | holder
  | issuer
  | subject
  | issueDate
  | goodAfterDate
  | goodBeforeDate
  | seats
  | features
  deriving DecidableEq, Repr

/-- The name of a field in messages. -/
def Field.name : Field → String
  | holder => "holder"
  | issuer => "issuer"
  | subject => "subject"
  | issueDate => "issue_date"
  | goodAfterDate => "good_after_date"
  | goodBeforeDate => "good_before_date"
  | seats => "number_of_licenses"
  | features => "features"

/-- The conditions that a value can break. -/
inductive Reason where
  /-- The text is blank. -/
  | blank
  /-- The text holds a bracket. -/
  | bracket
  /-- The date is before the start of 1970. -/
  | negative (date : Int64)
  /-- No value was given. -/
  | missing
  /-- The name of a feature is blank. -/
  | featureBlank
  /-- The name of a feature holds a bracket or a comma. -/
  | featureReserved (name : String)
  /-- A feature expires before the start of 1970. -/
  | featureNegative (name : String)
  /-- Two features have one name. -/
  | featureRepeated (name : String)
  deriving DecidableEq, Repr

/-- The wording of a reason. -/
def Reason.message : Reason → String
  | blank => "must not be empty"
  | bracket => "must not contain '[' or ']'"
  | negative date => "must not be negative, got " ++ Numeral.ofInt date.toInt
  | missing => "is required"
  | featureBlank => "feature name must not be empty"
  | featureReserved name => "feature `" ++ name ++ "` contains '[', ']' or ','"
  | featureNegative name => "feature `" ++ name ++ "` has a negative expiry"
  | featureRepeated name => "feature `" ++ name ++ "` added more than once"

/-- A field and the condition that its value breaks. -/
structure Rejection where
  field : Field
  reason : Reason
  deriving DecidableEq, Repr

end Licensing
