import Licensing.FrozenSet
import Licensing.Hash.SipHash
import Licensing.License.Feature

/-!
# Licenses

A license names its holder, its issuer and its subject, has three dates and a number of seats, and
grants features.

## Main definitions

* `License` — the values of a license.
* `License.feature?`, `License.coversAll`, `License.coversAny` — what a license grants at a time.
* `License.featureSet` — the features as a set.
* `License.copy` — a license with the same values.
* `License.equals` — two licenses have the same values, their features in whatever order.
* `License.hashCode` — a hash that equal licenses share.

## Implementation notes

Equality of values, `=`, tells the order of the features apart; `License.equals` does not.

The seal over the features of a license is `FeatureSeal`. It is not among the values of a license,
since its digest is that of the features.
-/

namespace Licensing

/-- The values of a license. Dates are milliseconds since the start of 1970. -/
structure License where
  /-- The key of the product; it may be empty. -/
  productKey : String
  holder : String
  issuer : String
  /-- What the license is for. -/
  subject : String
  issueDate : Int64
  /-- The start of the time in which the license is valid. -/
  goodAfterDate : Int64
  /-- The end of the time in which the license is valid, itself outside. -/
  goodBeforeDate : Int64
  /-- How many may use the license. -/
  seats : UInt32
  /-- The features in the order in which they were added. -/
  features : List Feature
  deriving DecidableEq, Repr

namespace License

/-- The feature of a name. -/
def feature? (l : License) (name : String) : Option Feature :=
  l.features.find? (·.name == name)

/-- The license has a feature of this name that has not ended. -/
def covers (l : License) (now : Int64) (name : String) : Bool :=
  (l.feature? name).any (!·.isExpiredAt now)

/-- The license covers every one of the names. -/
def coversAll (l : License) (now : Int64) (names : List String) : Bool :=
  names.all (l.covers now)

/-- The license covers one of the names. -/
def coversAny (l : License) (now : Int64) (names : List String) : Bool :=
  names.any (l.covers now)

/-- The features as a set, watched by no one but its owner: the seal under which they stand agrees
at every read. That no two of them are equal is left to the making of the license. -/
def featureSet {σ : Type} (l : License) : FrozenSet σ Feature :=
  .ofDistinct l.features

/-- The license with features of its own: those that reading the set gives, or none if it cannot be
trusted. -/
def copy (l : License) : License :=
  { l with features := ((l.featureSet (σ := Unit)).toList.run.run ()).1.toOption.getD [] }

/-- All values but the features are equal. -/
def sameScalars (a b : License) : Bool :=
  a.productKey == b.productKey && a.holder == b.holder && a.issuer == b.issuer &&
    a.subject == b.subject && a.issueDate == b.issueDate && a.goodAfterDate == b.goodAfterDate &&
    a.goodBeforeDate == b.goodBeforeDate && a.seats == b.seats

/-- The features are the same, in whatever order. -/
def sameFeatures (a b : License) : Bool :=
  ((a.featureSet (σ := Unit)).same b.featureSet ()).1

/-- All values are equal, the features in whatever order. -/
def equals (a b : License) : Bool :=
  a.sameScalars b && a.sameFeatures b

/-- The bytes of a text as a part of a hash. No text holds the byte after it. -/
def hashText (text : String) : Bytes :=
  Bytes.ofText text ++ [0xff]

/-- The bytes of a number of 64 bits as a part of a hash. -/
def hashNumber (n : UInt64) : Bytes :=
  Bytes.littleEndian 8 n.toNat

/-- How many features reading the set finds, or zero if it cannot be trusted. -/
def featureCount (l : License) : Nat :=
  ((l.featureSet (σ := Unit)).len.run.run ()).1.toOption.getD 0

/-- The bytes that are hashed: all values but the features, and the number of features. -/
def hashInput (l : License) : Bytes :=
  hashText l.productKey ++ hashText l.holder ++ hashText l.issuer ++ hashText l.subject ++
    hashNumber l.issueDate.toUInt64 ++ hashNumber l.goodAfterDate.toUInt64 ++
    hashNumber l.goodBeforeDate.toUInt64 ++ Bytes.littleEndian 4 l.seats.toNat ++
    Bytes.littleEndian 8 l.featureCount

/-- A hash that equal licenses share. -/
def hashCode (l : License) : UInt64 :=
  SipHash.digest l.hashInput

/-- The license as diagnostics show it. -/
def describe (l : License) : String :=
  Text.record "License" true
    [("product_key", Text.quote l.productKey),
     ("holder", Text.quote l.holder),
     ("issuer", Text.quote l.issuer),
     ("subject", Text.quote l.subject),
     ("issue_date", Numeral.ofInt l.issueDate.toInt),
     ("good_after_date", Numeral.ofInt l.goodAfterDate.toInt),
     ("good_before_date", Numeral.ofInt l.goodBeforeDate.toInt),
     ("number_of_licenses", Numeral.ofNat l.seats.toNat),
     ("features", ((l.featureSet (σ := Unit)).describe Feature.describe ()).1)]

end License

end Licensing
