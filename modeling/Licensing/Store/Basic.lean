import Licensing.Store.Directory
import Licensing.Store.StoredLicense

/-!
# The license store

Signed licenses kept in a directory, one file for each context. The name of a file is the digest of
its context, so that a context can hold any characters. A file is written under another name first,
so that a license is replaced at once or not at all.

## Main definitions

* `Store.fileName`, `Store.temporaryName` — the names of the files of a context.
* `Store.save`, `Store.delete`, `Store.clear` — the changes.
* `Store.load`, `Store.signed` — the license of a context, as it is stored and as it was saved.
-/

namespace Licensing.Store

/-- The digest of a context. -/
def contextHash (context : String) : String :=
  Hex.encode (Sha256.digest (Bytes.ofText context))

/-- The name of the file of a context. -/
def fileName (context : String) : String :=
  contextHash context ++ ".json"

/-- The name under which the file of a context is written. -/
def temporaryName (context : String) : String :=
  contextHash context ++ ".tmp"

/-- The name is that of a license: it ends in `.json`, with something before it. -/
def isLicenseName (name : String) : Bool :=
  ".json".toList.isSuffixOf name.toList && 5 < name.length

/-- Saves a signed license for a context, in the place of an earlier one. -/
def save (faults : Faults) (now : Instant) (context : String) (s : SignedLicense) : Disk Unit := do
  let document := (StoredLicense.ofSigned s now).toDocument
  Disk.writeFile faults (temporaryName context) (Bytes.ofText document) .writeTemporary
  Disk.rename faults (temporaryName context) (fileName context) .rename

/-- The stored license of a context. -/
def load (d : Directory) (context : String) : Except Error (Option StoredLicense) :=
  match d.at? (fileName context) with
  | none => .ok none
  | some .folder | some (.link _) => .error (.storeIO .read)
  | some (.file content) =>
    match Utf8.decode content with
    | .error _ => .error (.storeIO .read)
    | .ok document => ((StoredLicense.ofDocument document).map some).mapError .format

/-- The signed license of a context. -/
def signed (d : Directory) (context : String) : Except Error (Option SignedLicense) := do
  match ← load d context with
  | none => return none
  | some s => return some (← s.toSigned.mapError .format)

/-- Deletes the license of a context, if there is one. -/
def delete (faults : Faults) (context : String) : Disk Unit := do
  let d ← get
  if (d.at? (fileName context)).isSome then
    Disk.removeFile faults (fileName context) .delete

/-- Deletes all licenses, as far as the entries are listed. -/
def clear (faults : Faults) : Disk Unit := do
  let names ← Disk.list faults .readDirectory
  Disk.removeFiles faults .clear (names.filter isLicenseName)
  Disk.endList faults .readEntry

/-- The store as diagnostics show it, the path of its directory quoted already. -/
def describe (path : String) : String :=
  Text.record "FileLicenseStore" false [("store_dir", path)]

end Licensing.Store
