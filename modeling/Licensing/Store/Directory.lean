import Licensing.Bytes
import Licensing.Error
import Licensing.Store.Path

/-!
# Directories

The directory of a store: files, folders and links by name, in the order in which the directory
lists them. A directory may also be gone, and far from the root it has room for short names only. An
operation on it may fail although nothing in the directory stands against it, as disks do; what such
a failure leaves behind is said here. Reading and writing follow links; a link itself is what gets
another name or is removed.

## Main definitions

* `Entry`, `Directory` — what is under a name, and what is in a directory.
* `Directory.follow?` — the name to which links lead.
* `Directory.at?`, `Directory.place?` — what is read under a name, and where a file is written.
* `WriteFault`, `ListFault`, `Faults` — what fails in an operation for no reason of its own.
* `Disk` — an operation that changes a directory and may fail.
* `Disk.writeFile`, `Disk.rename`, `Disk.removeFile`, `Disk.removeFiles` — the operations of a
  store.
* `Directory.create` — the directory of a path.

## Implementation notes

A link leads to a name in the directory or out of it. What is outside is kept with the rest, under
paths that cannot be names, and is not listed. A file with several names can be kept in this way,
all of them leading to it, but for a rename of one of them to another one, which would leave both. A
rename is done as a whole or not at all.
-/

namespace Licensing

/-- What is under a name in a directory. -/
inductive Entry where
  | file (content : Bytes)
  | folder
  /-- What is under another name in the directory, or under a path that leads out of it. -/
  | link (target : String)
  deriving DecidableEq, Repr

/-- The most links that are followed one after the other. -/
def linkLimit : Nat := 40

/-- What is in a directory, and how long a name can be there. -/
structure Directory where
  /-- What is in the directory, and outside under the paths to which links lead; nothing if the
  directory is gone. -/
  entries : Option (Table Entry)
  /-- The most bytes of a name by which something in the directory can be reached. -/
  room : Nat
  deriving DecidableEq, Repr

/-- How the writing of a file fails. -/
inductive WriteFault where
  /-- The file is not opened, and what was there stays. -/
  | unopened
  /-- The file is written only up to this length. -/
  | cut (length : Nat)
  deriving DecidableEq, Repr

/-- How the listing of a directory fails. -/
inductive ListFault where
  /-- No entry is listed. -/
  | unopened
  /-- The listing breaks off after so many entries. -/
  | cut (count : Nat)
  deriving DecidableEq, Repr

/-- What fails in an operation for no reason of its own. -/
structure Faults where
  /-- A file is not written as a whole. -/
  write : Option WriteFault
  /-- A file does not get its new name. -/
  rename : Bool
  /-- The names of files that are not removed. -/
  remove : List String
  /-- Not all entries are listed. -/
  list : Option ListFault
  deriving DecidableEq, Repr

/-- Nothing fails for no reason. -/
def Faults.none : Faults :=
  ⟨.none, false, [], .none⟩

/-- The names that are listed before the listing breaks off. -/
def Faults.listed (faults : Faults) (names : List String) : List String :=
  match faults.list with
  | some (.cut count) => names.take count
  | _ => names

namespace Directory

/-- The directory without entries. -/
def empty : Directory :=
  ⟨some [], nameLimit⟩

/-- The directory that is gone. -/
def gone : Directory :=
  ⟨none, nameLimit⟩

/-- The name is not a path that leads out of the directory. -/
def isInside (name : String) : Bool :=
  !name.toList.contains '/' && name != "." && name != ".."

/-- The names of the entries. -/
def names (d : Directory) : List String :=
  (d.entries.getD []).names.filter isInside

/-- What is under a name, however long the name is. -/
def under? (d : Directory) (name : String) : Option Entry :=
  d.entries.bind (·.find? name)

/-- The name is short enough for the directory. -/
def reaches (d : Directory) (name : String) : Bool :=
  name.utf8ByteSize ≤ d.room

/-- What is under a name by which it can be reached. -/
def find? (d : Directory) (name : String) : Option Entry :=
  if d.reaches name then d.under? name else none

/-- The name to which up to `limit` links lead, one after the other. A link to what can be neither a
name nor outside leads nowhere. -/
def follow? (d : Directory) (limit : Nat) (name : String) : Option String :=
  match d.under? name, limit with
  | some (.link _), 0 => none
  | some (.link target), limit + 1 =>
    if isInside target && !isName target then none else d.follow? limit target
  | _, _ => some name

/-- What is read under a name. -/
def at? (d : Directory) (name : String) : Option Entry :=
  if d.reaches name then (d.follow? linkLimit name).bind d.under? else none

/-- The name under which a file is found after it was written under a name, if it can be written. -/
def place? (d : Directory) (name : String) : Option String :=
  if d.entries.isSome && d.reaches name then
    (d.follow? linkLimit name).filter fun place => d.under? place ≠ some .folder
  else none

/-- A file or a link is under a name. -/
def isRemovable (d : Directory) (name : String) : Bool :=
  match d.find? name with
  | none | some .folder => false
  | some (.file _) | some (.link _) => true

/-- The directory with nothing under a name. -/
def erase (d : Directory) (name : String) : Directory :=
  { d with entries := d.entries.map (·.erase name) }

/-- The directory with an entry under a name, in the place of what was there. -/
def insert (d : Directory) (name : String) (entry : Entry) : Directory :=
  { d with entries := d.entries.map (·.insert name entry) }

/-- Removing a name leaves nothing under it and changes nothing under another. -/
theorem under?_erase (d : Directory) (name other : String) :
    (d.erase name).under? other = if other = name then none else d.under? other := by
  cases h : d.entries <;> simp [under?, erase, h, Table.find?_erase]

/-- Setting an entry in a directory that is there puts it under its name and changes nothing under
another. -/
theorem under?_insert {d : Directory} (present : d.entries.isSome) (name other : String)
    (entry : Entry) :
    (d.insert name entry).under? other = if other = name then some entry else d.under? other := by
  obtain ⟨entries, h⟩ := Option.isSome_iff_exists.mp present
  simp [under?, insert, h, Table.find?_insert]

theorem find?_erase (d : Directory) (name other : String) :
    (d.erase name).find? other = if other = name then none else d.find? other := by
  have same : (d.erase name).reaches other = d.reaches other := rfl
  rw [find?, find?, same, under?_erase]
  cases d.reaches other <;> simp

/-- The same for what can be reached, if the name is short enough. -/
theorem find?_insert {d : Directory} {name : String} (present : d.entries.isSome)
    (reached : d.reaches name) (other : String) (entry : Entry) :
    (d.insert name entry).find? other = if other = name then some entry else d.find? other := by
  have same : (d.insert name entry).reaches other = d.reaches other := rfl
  rw [find?, find?, same, under?_insert present]
  by_cases first : other = name
  · subst first
    simp [reached]
  · simp [first]

/-- The directory of a path, made with all folders on the way to it, where nothing else exists but
some empty files. -/
def create (files : List String) (path : String) : Except Error Directory :=
  match Location.ofPath? (files.map (·, .file)) path with
  | some l =>
    let entries := l.entries.map fun
      | (name, .file) => (name, .file [])
      | (name, .folder _) => (name, .folder)
    .ok ⟨some entries, roomBelow path⟩
  | none => .error (.storeIO .createDirectory)

end Directory

/-- Changes a directory or fails. -/
abbrev Disk : Type → Type :=
  Action Directory

namespace Disk

/-- Fails with a fault of the store. -/
def fail {α : Type} (fault : StoreFault) : Disk α :=
  throw (.storeIO fault)

/-- Writes a file under a name, in the place of a file that is there or to which links lead. A write
that fails for no reason leaves that file or the start of the content. -/
def writeFile (faults : Faults) (name : String) (content : Bytes) (fault : StoreFault) :
    Disk Unit := do
  let d ← get
  match d.place? name with
  | none => fail fault
  | some place =>
    match faults.write with
    | some .unopened => fail fault
    | some (.cut length) =>
      set (d.insert place (.file (content.take length)))
      fail fault
    | none => set (d.insert place (.file content))

/-- Gives an entry another name, in the place of a file or a link that has it. -/
def rename (faults : Faults) (name newName : String) (fault : StoreFault) : Disk Unit := do
  let d ← get
  match d.find? name with
  | none => fail fault
  | some entry =>
    if faults.rename ∨ ¬ d.reaches newName ∨ d.find? newName = some .folder then fail fault
    set ((d.erase name).insert newName entry)

/-- Removes the file or the link under a name. -/
def removeFile (faults : Faults) (name : String) (fault : StoreFault) : Disk Unit := do
  let d ← get
  if ¬ d.isRemovable name ∨ faults.remove.contains name then fail fault
  set (d.erase name)

/-- Removes the files and links under some names, one after the other. -/
def removeFiles (faults : Faults) (fault : StoreFault) : List String → Disk Unit
  | [] => return ()
  | name :: rest => do
    removeFile faults name fault
    removeFiles faults fault rest

/-- The names of the entries, as far as they are listed. -/
def list (faults : Faults) (fault : StoreFault) : Disk (List String) := do
  let d ← get
  if faults.list = some .unopened ∨ d.entries.isNone then fail fault
  return faults.listed d.names

/-- Fails if the listing broke off. -/
def endList (faults : Faults) (fault : StoreFault) : Disk Unit :=
  match faults.list with
  | some (.cut _) => fail fault
  | _ => return ()

end Disk

end Licensing
