import Licensing.Json.Quoted
import Licensing.Json.Value
import Licensing.SignedLicense
import Licensing.Time.Rfc3339

/-!
# Stored licenses

A signed license as a document: its two halves in Base64, and the time at which it was stored. The
document is not trusted: the signature is checked when the license is opened.

## Main definitions

* `StoredLicense` — the values of a document.
* `StoredLicense.ofSigned`, `StoredLicense.toSigned` — from signed licenses and back.
* `StoredLicense.toDocument`, `StoredLicense.ofDocument` — the text of the document and back.
-/

namespace Licensing

/-- A signed license as it is stored. -/
structure StoredLicense where
  content : String
  signature : String
  storedAt : Instant
  deriving DecidableEq, Repr

namespace StoredLicense

/-- A signed license stored at a time. -/
def ofSigned (s : SignedLicense) (now : Instant) : StoredLicense :=
  ⟨Base64.encode s.content, Base64.encode s.signature, now⟩

/-- The signed license that is stored. -/
def toSigned (s : StoredLicense) : Except FormatFault SignedLicense := do
  let content ← (Base64.decode s.content).mapError .contentBase64
  let signature ← (Base64.decode s.signature).mapError .signatureBase64
  return ⟨content, signature⟩

/-- The text of the document. -/
def toDocument (s : StoredLicense) : String :=
  Json.object
    [("license_content", Json.quote s.content), ("signature", Json.quote s.signature),
     ("stored_at", Json.quote s.storedAt.toRfc3339)]

/-- A stored license of the values of its parts. -/
def ofParts? (content signature storedAt : Json.Value) : Option StoredLicense := do
  return ⟨← content.text?, ← signature.text?, ← Instant.ofRelaxed? (← storedAt.text?)⟩

/-- A stored license of the value of a document: an object with the three members, among others, or
an array of the three values. All names have to be texts. -/
def ofValue? : Json.Value → Option StoredLicense
  | .array [content, signature, storedAt] => ofParts? content signature storedAt
  | .object members =>
    if members.all (·.1.isSome) then do
      ofParts? (← Json.member? "license_content" members) (← Json.member? "signature" members)
        (← Json.member? "stored_at" members)
    else none
  | _ => none

/-- The stored license of a document. -/
def ofDocument (document : String) : Except FormatFault StoredLicense :=
  match (Json.Value.ofDocument? document).bind ofValue? with
  | some s => .ok s
  | none => .error .storedLicense

end StoredLicense

end Licensing
