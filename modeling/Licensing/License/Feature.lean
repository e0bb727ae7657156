import Licensing.Hash.Sha256
import Licensing.Text.Numeral
import Licensing.Text.Quoted

/-!
# Features

The named capabilities that a license grants. A feature may end before its license does.

## Main definitions

* `Feature` — a name and an expiry.
* `Feature.neverExpires`, `Feature.isExpiredAt` — how a feature stands to a time.
* `Feature.digestInput`, `Feature.digestOf` — the bytes that commit to a list of features, and their
  digest.
-/

namespace Licensing

/-- A named capability. -/
structure Feature where
  name : String
  /-- The milliseconds from the start of 1970 to the end of the feature, or `never`. -/
  expiry : Int64
  deriving DecidableEq, Repr

namespace Feature

/-- The expiry of a feature that never expires. -/
def never : Int64 :=
  -1

/-- The feature of a name that never expires. -/
def lasting (name : String) : Feature :=
  ⟨name, never⟩

/-- The feature has no end. -/
def neverExpires (f : Feature) : Bool :=
  f.expiry == never

/-- The feature has ended at a time. -/
def isExpiredAt (f : Feature) (now : Int64) : Bool :=
  !f.neverExpires && f.expiry ≤ now

/-- A feature is called by its name. -/
def text (f : Feature) : String :=
  f.name

/-- The feature as diagnostics show it. -/
def describe (f : Feature) : String :=
  Text.record "Feature" true
    [("name", Text.quote f.name), ("good_before_date", Numeral.ofInt f.expiry.toInt)]

/-- The bytes that commit to a feature: the length of the name, the name and the expiry. -/
def digestPart (f : Feature) : Bytes :=
  let name := Bytes.ofText f.name
  Bytes.bigEndian 8 name.length ++ name ++ Bytes.bigEndian 8 f.expiry.toUInt64.toNat

/-- The bytes that commit to a list of features. -/
def digestInput (features : List Feature) : Bytes :=
  features.flatMap digestPart

/-- The digest that commits to a list of features. -/
def digestOf (features : List Feature) : Bytes :=
  Sha256.digest (digestInput features)

@[simp] theorem neverExpires_lasting (name : String) : (lasting name).neverExpires = true := rfl

/-- A feature that never expires has not ended at any time. -/
theorem isExpiredAt_of_neverExpires {f : Feature} (h : f.neverExpires) (now : Int64) :
    f.isExpiredAt now = false := by
  simp [isExpiredAt, h]

end Feature

end Licensing
