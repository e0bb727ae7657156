import Licensing.Bytes.Base64
import Licensing.License.Rejection
import Licensing.Text.Utf8
import Licensing.Time.Diagnostic

/-!
# Errors

What can go wrong while a license is issued, stored, opened or checked, and the wording of each
case.

## Main definitions

* `FormatFault` — why a byte string or a text is not the form of a license.
* `Error` — all errors.
* `Error.message` — the wording of an error.
* `Action` — a computation that may fail and may change a state.
-/

namespace Licensing

/-- The parts of the binary form of a license. -/
inductive Part where
  | header
  | productKey
  | holder
  | issuer
  | subject
  | dates
  | featureName
  | featureExpiry
  deriving DecidableEq, Repr

/-- The name of a part in messages. -/
def Part.name : Part → String
  | header => "header"
  | productKey => "product_key"
  | holder => "holder"
  | issuer => "issuer"
  | subject => "subject"
  | dates => "dates"
  | featureName => "feature name"
  | featureExpiry => "feature expiry"

/-- Why a byte string or a text is not the form of a license. -/
inductive FormatFault where
  /-- The bytes end inside a part. -/
  | truncated (part : Part)
  /-- The bytes do not start like the binary form. -/
  | badMagic
  /-- The version of the binary form is unknown. -/
  | version (version : UInt8)
  /-- A text of the binary form is not UTF-8. -/
  | partUtf8 (part : Part) (fault : Utf8.Fault)
  /-- More features are announced than the rest can hold. -/
  | featureCount (count : Nat)
  /-- Bytes follow the last feature. -/
  | trailing (count : Nat)
  /-- A text is too long for the binary form. -/
  | textTooLong
  /-- There are too many features for the binary form. -/
  | tooManyFeatures
  /-- The text form is not UTF-8. -/
  | textUtf8 (fault : Utf8.Fault)
  /-- A field of the text form does not start with a bracket. -/
  | unopened (field : Nat)
  /-- A field of the text form does not end. -/
  | unclosed (field : Nat)
  /-- A field of the text form holds an opening bracket. -/
  | nested (field : Nat)
  /-- The text form does not have eight fields. -/
  | fieldCount (count : Nat)
  /-- A field is not a number that fits. -/
  | number (field : Field) (text : String)
  /-- The values are well formed but no license has them. -/
  | rejected (rejection : Rejection)
  /-- The document of a stored license cannot be read. -/
  | storedLicense
  /-- The content of a stored license is not Base64. -/
  | contentBase64 (fault : Base64.Fault)
  /-- The signature of a stored license is not Base64. -/
  | signatureBase64 (fault : Base64.Fault)
  deriving DecidableEq, Repr

/-- The wording of a fault. -/
def FormatFault.message : FormatFault → String
  | truncated part => "truncated binary license while reading " ++ part.name
  | badMagic => "not a binary license (bad magic)"
  | version v => "unsupported binary license version " ++ Numeral.ofNat v.toNat
  | partUtf8 part fault => part.name ++ " is not UTF-8: " ++ fault.message
  | featureCount count => "feature count " ++ Numeral.ofNat count ++ " exceeds remaining data"
  | trailing count => Numeral.ofNat count ++ " trailing bytes after license"
  | textTooLong => "string field too long"
  | tooManyFeatures => "too many features"
  | textUtf8 fault => "license text is not UTF-8: " ++ fault.message
  | unopened field => "expected '[' at field " ++ Numeral.ofNat field
  | unclosed field => "field " ++ Numeral.ofNat field ++ " is not terminated"
  | nested field => "field " ++ Numeral.ofNat field ++ " contains a nested '['"
  | fieldCount count => "expected 8 bracketed fields, found " ++ Numeral.ofNat count
  | number field text => "field `" ++ field.name ++ "` is not a valid number: " ++ text
  | rejected rejection =>
    "field `" ++ rejection.field.name ++ "` " ++ rejection.reason.message
  | storedLicense => "Failed to parse stored license"
  | contentBase64 fault => "Invalid license content base64: " ++ fault.message
  | signatureBase64 fault => "Invalid signature base64: " ++ fault.message

/-- What an unsupported algorithm was wanted for. -/
inductive Unsupported where
  /-- Signatures with a key of this algorithm. -/
  | signature (keyAlgorithm : String)
  /-- Parsing a key of this algorithm. -/
  | key (algorithm : String)
  /-- Encrypting a text that is too long. -/
  | encryption
  deriving DecidableEq, Repr

/-- The wording of what is unsupported. -/
def Unsupported.message : Unsupported → String
  | signature algorithm => "SHA256with" ++ algorithm
  | key algorithm => "key algorithm " ++ algorithm ++ " (expected Ed25519)"
  | encryption => "encryption failed"

/-- The two kinds of keys. -/
inductive KeyKind where
  | privateKey
  | publicKey
  deriving DecidableEq, Repr

/-- The wording of a key kind. -/
def KeyKind.name : KeyKind → String
  | privateKey => "private"
  | publicKey => "public"

/-- Why a ciphertext does not decrypt. -/
inductive DecryptionFault where
  /-- The ciphertext has too few bytes. -/
  | tooShort (length : Nat)
  /-- The ciphertext does not start like one. -/
  | missingMagic
  /-- The password is too long for the key derivation. -/
  | passwordTooLong
  /-- The password is wrong, or a byte was changed. -/
  | refused
  deriving DecidableEq, Repr

/-- The wording of a decryption fault. -/
def DecryptionFault.message : DecryptionFault → String
  | tooShort length => "ciphertext too short: " ++ Numeral.ofNat length ++ " bytes"
  | missingMagic => "missing ciphertext magic"
  | passwordTooLong => "key derivation: password is too long"
  | refused => "bad password or corrupted ciphertext"

/-- Why a configuration is not valid. -/
inductive ConfigFault where
  | emptyProductName
  | emptyPassphrase
  | emptyNamespace
  /-- The namespace is not the name of one directory. -/
  | namespaceComponent (name : String)
  deriving DecidableEq, Repr

/-- The wording of a configuration fault. -/
def ConfigFault.message : ConfigFault → String
  | emptyProductName => "product_name cannot be empty"
  | emptyPassphrase => "payload_passphrase cannot be empty"
  | emptyNamespace => "store_namespace cannot be empty"
  | namespaceComponent name => "store_namespace must be a single path component, got " ++ name

/-- What a store could not do. -/
inductive StoreFault where
  | createDirectory
  | writeTemporary
  | rename
  | read
  | delete
  | readDirectory
  | readEntry
  | clear
  /-- Some other failure, in the words of a license provider. -/
  | other (reason : String)
  deriving DecidableEq, Repr

/-- The wording of a store fault. -/
def StoreFault.message : StoreFault → String
  | createDirectory => "Failed to create store dir"
  | writeTemporary => "Failed to write temp file"
  | rename => "Failed to rename license file"
  | read => "Failed to read license file"
  | delete => "Failed to delete license"
  | readDirectory => "Failed to read store dir"
  | readEntry => "Failed to read entry"
  | clear => "Failed to delete"
  | other reason => reason

/-- What can go wrong while a license is issued, stored, opened or checked. -/
inductive Error where
  /-- No license has these values. -/
  | construction (rejection : Rejection)
  /-- The algorithm of a key or a cipher is not available. -/
  | algorithmUnsupported (cause : Unsupported)
  /-- The bytes of a key are not those of such a key. -/
  | inappropriateKey (kind : KeyKind)
  /-- The signature does not have 64 bytes. -/
  | corruptSignature (length : Nat)
  /-- The signature is not one of the data. -/
  | invalidSignature
  /-- A ciphertext does not decrypt. -/
  | decryptionFailure (fault : DecryptionFault)
  /-- A byte string or a text is not the form of a license. -/
  | format (fault : FormatFault)
  /-- A set was read after its owner reported that it was changed. -/
  | tamperDetected
  /-- The license is not valid yet. -/
  | notYetValid (description : String) (goodAfter : Int64)
  /-- The license is not valid any more. -/
  | expired (description : String) (goodBefore : Int64)
  /-- A set that cannot be changed was to be changed. -/
  | unsupportedOperation (operation : String)
  /-- An iteration was advanced past its end. -/
  | outOfRange
  /-- A provider has no key. -/
  | keyNotFound (reason : String)
  /-- No license is known for a context. -/
  | licenseNotFound (context : String)
  /-- A policy refused a permission. -/
  | accessDenied (reason : String)
  /-- The guard was to be replaced. -/
  | guardReplacementProhibited
  /-- The creator of the process is wanted before it exists. -/
  | creatorNotInitialized
  /-- The license does not cover a feature. -/
  | featureMissing (feature : String)
  /-- The configuration is not valid. -/
  | config (fault : ConfigFault)
  /-- The store failed. -/
  | storeIO (fault : StoreFault)
  deriving DecidableEq, Repr

/-- The wording of an error. -/
def Error.message : Error → String
  | construction rejection =>
    "Invalid license field `" ++ rejection.field.name ++ "`: " ++ rejection.reason.message
  | algorithmUnsupported cause => "Algorithm not supported: " ++ cause.message
  | inappropriateKey kind => "Inappropriate key: not an Ed25519 " ++ kind.name ++ " key"
  | corruptSignature length =>
    "Corrupt signature: expected 64 signature bytes, got " ++ Numeral.ofNat length
  | invalidSignature => "The license signature is invalid"
  | decryptionFailure fault => "Decryption failed: " ++ fault.message
  | format fault => "Format error: " ++ fault.message
  | tamperDetected => "Immutable state was modified out of band"
  | notYetValid description goodAfter =>
    "The " ++ description ++ " will not be valid until " ++ Time.diagnostic goodAfter.toInt
  | expired description goodBefore =>
    "The " ++ description ++ " expired on " ++ Time.diagnostic goodBefore.toInt
  | unsupportedOperation operation => "Unsupported operation: " ++ operation
  | outOfRange => "No more elements"
  | keyNotFound reason => "Key not found: " ++ reason
  | licenseNotFound context => "No license found for context `" ++ context ++ "`"
  | accessDenied reason => "Access denied: " ++ reason
  | guardReplacementProhibited => "Replacing the installed license guard is prohibited"
  | creatorNotInitialized => "The license creator has not been created yet"
  | featureMissing feature => "License does not cover feature: " ++ feature
  | config fault => "Configuration error: " ++ fault.message
  | storeIO fault => "License store I/O error: " ++ fault.message

/-- Computes a value or fails, and may depend on a state and change it. What was changed before a
failure stays changed. -/
abbrev Action (σ : Type) : Type → Type :=
  ExceptT Error (StateM σ)

end Licensing
