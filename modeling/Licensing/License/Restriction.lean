import Licensing.License.Basic

/-!
# Restrictions

What a part of a product asks of a license: all of some features, or one of them.

## Main definitions

* `Operand` — whether all features are needed or one is enough.
* `Restriction` — the names of features, and how they combine.
* `Restriction.check` — fails unless a license meets the restriction at a time.
-/

namespace Licensing

/-- Whether all features are needed or one is enough. -/
inductive Operand where
  | all
  | any
  deriving DecidableEq, Repr

namespace Operand

/-- All features are needed unless something else is said. -/
instance : Inhabited Operand :=
  ⟨all⟩

/-- The name of an operand. -/
def name : Operand → String
  | all => "All"
  | any => "Any"

end Operand

/-- The features that something needs. -/
structure Restriction where
  names : List String
  operand : Operand
  deriving DecidableEq, Repr

namespace Restriction

/-- The first name that a license does not cover at a time, each being asked for alone. -/
def missing? (r : Restriction) (l : License) (now : Int64) : Option String :=
  r.names.find? fun name => !l.coversAll now [name]

/-- Fails unless a license meets the restriction at a time. The error names the first feature that
is missing if all are needed, and the first one at all if one is enough. No features are always
there. -/
def check (r : Restriction) (l : License) (now : Int64) : Except Error Unit :=
  match r.names with
  | [] => .ok ()
  | first :: _ =>
    match r.operand with
    | .all =>
      match r.missing? l now with
      | none => .ok ()
      | some name => .error (.featureMissing name)
    | .any => if l.coversAny now r.names then .ok () else .error (.featureMissing first)

/-- The restriction as diagnostics show it. -/
def describe (r : Restriction) : String :=
  Text.record "FeatureRestriction" true
    [("features", Text.bracketed "[" "]" (r.names.map Text.quote)), ("operand", r.operand.name)]

end Restriction

end Licensing
