import Licensing.FrozenSet

/-!
# Permissions and policies

Privileged requests, and the policies that decide on them.

## Main definitions

* `Member` — a named member of a type.
* `Member.isProtected` — the member belongs to the types that the guard protects.
* `Permission` — a privileged request.
* `Policy` — grants or refuses each request.
* `Policy.ofVerdicts` — the policy that has a fixed verdict on each request.

## Implementation notes

A policy may depend on a state and change it, so that a policy can be one that counts or records
what it is asked.
-/

namespace Licensing

/-- A named member of a type, given by the path of the type. -/
structure Member where
  owner : String
  name : String
  deriving DecidableEq, Repr

namespace Member

/-- How the path of a protected type starts. -/
def protectedRoot : String :=
  "licensewarden::"

/-- The one type under the protected path that is open to all. -/
def openOwner : String :=
  "licensewarden::policy::access::FeatureRestriction"

/-- The path of the type of licenses. -/
def licenseOwner : String :=
  "licensewarden::license::model::License"

/-- The path of the type of managers. -/
def managerOwner : String :=
  "licensewarden::manager::LicenseManager"

/-- The member belongs to a protected type. -/
def isProtected (m : Member) : Bool :=
  protectedRoot.toList.isPrefixOf m.owner.toList && m.owner != openOwner

/-- The path of the member. -/
def path (m : Member) : String :=
  m.owner ++ "::" ++ m.name

/-- The member as diagnostics show it. -/
def describe (m : Member) : String :=
  Text.record "Member" true [("owner", Text.quote m.owner), ("name", Text.quote m.name)]

end Member

/-- A privileged request. -/
inductive Permission where
  /-- To put another guard in the place of the installed one. -/
  | replaceGuard
  /-- To reach members from outside their types. -/
  | suppressAccessChecks (targets : List Member)
  /-- Something that the guard itself does not decide. -/
  | other (text : String)
  deriving DecidableEq, Repr

/-- The permission as diagnostics show it. -/
def Permission.describe : Permission → String
  | replaceGuard => "ReplaceGuard"
  | suppressAccessChecks targets =>
    Text.record "SuppressAccessChecks" true
      [("targets", Text.bracketed "[" "]" (targets.map Member.describe))]
  | other text => "Other(" ++ Text.quote text ++ ")"

/-- Grants or refuses each request. -/
abbrev Policy (σ : Type) : Type :=
  Permission → Action σ Unit

variable {σ : Type}

/-- The policy that has a fixed verdict on each request. -/
def Policy.ofVerdicts (verdict : Permission → Except Error Unit) : Policy σ := fun permission =>
  match verdict permission with
  | .ok () => pure ()
  | .error e => throw e

end Licensing
