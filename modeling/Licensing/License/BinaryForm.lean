import Licensing.License.Decoder
import Licensing.License.Draft

/-!
# The binary form of licenses

All of a license as bytes: a mark and a version, then the product key, the holder, the issuer and
the subject, the three dates, the seats, the number of features, and the features. Numbers have
their most significant byte first, and the length of a text stands before it.

## Main definitions

* `License.toBinary` — the binary form.
* `BinaryForm.takeCheckedHead`, `BinaryForm.takeFeatures` — what stands before the features, and
  the features.
* `License.readBinary` — the license of a byte string, or why reading it stops.
* `License.ofBinary` — the same, reading being safe.

## Main results

* `BinaryForm.guarded_takeSettings` — no read takes more than is left.
-/

namespace Licensing

namespace BinaryForm

/-- The bytes with which the binary form starts. -/
def magic : Bytes :=
  [0x4c, 0x57, 0x4c, 0x31]

/-- The version of the binary form. -/
def version : UInt8 :=
  1

/-- The least number of bytes of a feature: those of the length of its name and of its expiry. -/
def leastFeature : Nat :=
  4 + 8

/-- A text after its length. -/
def encodeText (text : String) : Except FormatFault Bytes :=
  let bytes := Bytes.ofText text
  if bytes.length < 0x100000000 then .ok (Bytes.bigEndian 4 bytes.length ++ bytes)
  else .error .textTooLong

/-- The bytes of a date. -/
def encodeDate (date : Int64) : Bytes :=
  Bytes.bigEndian 8 date.toUInt64.toNat

/-- The bytes of a feature. -/
def encodeFeature (f : Feature) : Except FormatFault Bytes := do
  let name ← encodeText f.name
  return name ++ encodeDate f.expiry

/-- The bytes of a number of features. -/
def encodeCount (count : Nat) : Except FormatFault Bytes :=
  if count < 0x100000000 then .ok (Bytes.bigEndian 4 count) else .error .tooManyFeatures

/-- The bytes of features, one after the other. -/
def encodeFeatures : List Feature → Except FormatFault Bytes
  | [] => .ok []
  | f :: rest => do
    let first ← encodeFeature f
    let others ← encodeFeatures rest
    return first ++ others

open Decoder

/-- The next date. -/
def nextDate : Decoder Int64 := do
  return (UInt64.ofNat (← nextNumber 8)).toInt64

/-- The next text, after its length. -/
def takeText (part : Part) : Decoder String := do
  need 4 part
  let length ← nextNumber 4
  need length part
  match Utf8.decode (← peek length) with
  | .ok text =>
    skip length
    return text
  | .error fault => reject (.partUtf8 part fault)

/-- The mark and the version. -/
def takeHeader : Decoder Unit := do
  need 5 .header
  let mark ← next 4
  check (mark = magic) .badMagic
  let found ← next 1
  check (found = [version]) (.version (found.headD 0))

/-- The next feature. -/
def takeFeature : Decoder Feature := do
  let name ← takeText .featureName
  need 8 .featureExpiry
  let expiry ← nextDate
  return ⟨name, expiry⟩

/-- As many features as wanted. -/
def takeFeatures : (count : Nat) → Decoder (List Feature)
  | 0 => return []
  | count + 1 => do
    let first ← takeFeature
    let others ← takeFeatures count
    return first :: others

/-- The number of features, which the bytes that are left have to be able to hold. -/
def checkCount (count : Nat) : Decoder Unit := do
  let rest ← get
  check (count ≤ rest.length / leastFeature) (.featureCount count)

/-- The end of the bytes. -/
def atEnd : Decoder Unit := do
  let rest ← get
  check (rest = []) (.trailing rest.length)

/-- What stands before the features: settings and the number of features. -/
structure Head where
  settings : List Setting
  count : Nat

/-- What stands before the features. -/
def takeHead : Decoder Head := do
  takeHeader
  let productKey ← takeText .productKey
  let holder ← takeText .holder
  let issuer ← takeText .issuer
  let subject ← takeText .subject
  need 32 .dates
  let issueDate ← nextDate
  let goodAfterDate ← nextDate
  let goodBeforeDate ← nextDate
  let seats ← nextNumber 4
  let count ← nextNumber 4
  return ⟨[.productKey productKey, .holder holder, .issuer issuer, .subject subject,
    .issueDate issueDate, .goodAfterDate goodAfterDate, .goodBeforeDate goodBeforeDate,
    .seats (UInt32.ofNat seats)], count⟩

/-- What stands before the features, when the bytes that are left can hold as many. Room for so many
is reserved then. -/
def takeCheckedHead : Decoder Head := do
  let head ← takeHead
  checkCount head.count
  return head

/-- The settings of a license in binary form. -/
def takeSettings : Decoder (List Setting) := do
  let head ← takeCheckedHead
  let features ← takeFeatures head.count
  atEnd
  return head.settings ++ features.map .feature

/-! ### Reads are guarded -/

theorem guarded_nextDate (more : Nat) : Guarded (8 + more) nextDate more :=
  (guarded_nextNumber 8 more).bind fun _ => guarded_pure _ more

theorem guarded_takeText (part : Part) : Guarded 0 (takeText part) 0 := by
  refine (guarded_need 4 part).bind fun _ => ?_
  refine (guarded_nextNumber 4 0).bind fun length => ?_
  refine (guarded_need length part).bind fun _ => ?_
  refine (guarded_peek length 0).bind fun bytes => ?_
  split
  · exact (guarded_skip length 0).bind fun _ => guarded_pure _ 0
  · exact guarded_reject _ _ 0

theorem guarded_takeHeader : Guarded 0 takeHeader 0 := by
  refine (guarded_need 5 .header).bind fun _ => ?_
  refine (guarded_next 4 1).bind fun mark => ?_
  refine (guarded_check (mark = magic) _ 1).bind fun _ => ?_
  refine (guarded_next 1 0).bind fun found => ?_
  exact guarded_check (found = [version]) _ 0

theorem guarded_takeFeature : Guarded 0 takeFeature 0 := by
  refine (guarded_takeText _).bind fun _ => ?_
  refine (guarded_need 8 _).bind fun _ => ?_
  exact (guarded_nextDate 0).bind fun _ => guarded_pure _ 0

/-- However many features are wanted, each of them has its own guards. -/
theorem guarded_takeFeatures (count : Nat) : Guarded 0 (takeFeatures count) 0 := by
  induction count with
  | zero => exact guarded_pure _ 0
  | succ count ih =>
    exact guarded_takeFeature.bind fun _ => ih.bind fun _ => guarded_pure _ 0

theorem guarded_checkCount (count : Nat) : Guarded 0 (checkCount count) 0 :=
  (guarded_get 0).bind fun rest => guarded_check (count ≤ rest.length / leastFeature) _ 0

theorem guarded_atEnd : Guarded 0 atEnd 0 :=
  (guarded_get 0).bind fun rest => guarded_check (rest = []) _ 0

/-- The bytes that one guard finds are those of the dates, the seats and the number of features. -/
theorem guarded_takeHead : Guarded 0 takeHead 0 := by
  refine guarded_takeHeader.bind fun _ => ?_
  refine (guarded_takeText _).bind fun _ => (guarded_takeText _).bind fun _ => ?_
  refine (guarded_takeText _).bind fun _ => (guarded_takeText _).bind fun _ => ?_
  refine (guarded_need 32 _).bind fun _ => ?_
  refine (guarded_nextDate 24).bind fun _ => (guarded_nextDate 16).bind fun _ => ?_
  refine (guarded_nextDate 8).bind fun _ => (guarded_nextNumber 4 4).bind fun _ => ?_
  exact (guarded_nextNumber 4 0).bind fun _ => guarded_pure _ 0

theorem guarded_takeCheckedHead : Guarded 0 takeCheckedHead 0 :=
  guarded_takeHead.bind fun head =>
    (guarded_checkCount head.count).bind fun _ => guarded_pure head 0

theorem guarded_takeSettings : Guarded 0 takeSettings 0 := by
  refine guarded_takeCheckedHead.bind fun head => ?_
  refine (guarded_takeFeatures head.count).bind fun _ => ?_
  exact guarded_atEnd.bind fun _ => guarded_pure _ 0

end BinaryForm

namespace License

open BinaryForm

/-- The binary form of a license. -/
def toBinary (l : License) : Except FormatFault Bytes := do
  let productKey ← encodeText l.productKey
  let holder ← encodeText l.holder
  let issuer ← encodeText l.issuer
  let subject ← encodeText l.subject
  let count ← encodeCount l.features.length
  let features ← encodeFeatures l.features
  return magic ++ [version] ++ productKey ++ holder ++ issuer ++ subject ++
    encodeDate l.issueDate ++ encodeDate l.goodAfterDate ++ encodeDate l.goodBeforeDate ++
    Bytes.bigEndian 4 l.seats.toNat ++ count ++ features

/-- The license of a byte string, or why reading it stops. -/
def readBinary (bytes : Bytes) : Except Halt License := do
  let (settings, _) ← takeSettings.run bytes
  (ofSettings settings).mapError .format

theorem readBinary_ne_overrun (bytes : Bytes) : readBinary bytes ≠ .error .overrun := by
  have safe := guarded_takeSettings.run_ne_overrun bytes
  unfold readBinary
  rcases run : takeSettings.run bytes with halt | ⟨settings, rest⟩
  · rw [run] at safe
    exact fun stops => safe (congrArg _ (Except.error.inj stops))
  · change (ofSettings settings).mapError Halt.format ≠ _
    cases ofSettings settings <;> exact nofun

/-- The license of a byte string. -/
def ofBinary (bytes : Bytes) : Except FormatFault License :=
  Halt.settle (readBinary bytes) (readBinary_ne_overrun bytes)

end License

end Licensing
