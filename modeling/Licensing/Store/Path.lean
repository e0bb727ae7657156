import Licensing.Table

/-!
# Paths and folders

The folders and files below a root, how a path leads through them, and how the folder of a path is
made together with all folders on the way.

## Main definitions

* `Node` — a file, or a folder with what is in it.
* `Location` — a folder on the way of a path, with `Location.up` and `Location.down?`.
* `Location.follow?` — the folder to which names lead.
* `Location.ofPath?` — the folder to which a path leads.
* `roomBelow` — how long the name of a file in the folder of a path can be.

## Implementation notes

A folder on the way is made even if the path leaves it again. The root has no folder above it. The
path of the root counts for the length of a path, but is not part of it here.
-/

namespace Licensing

/-- What is under a name: an empty file, or a folder with what is in it. -/
inductive Node where
  | file
  | folder (entries : List (String × Node))

/-- The most bytes of a name. -/
def nameLimit : Nat := 255

/-- The most bytes of a path, that of the root included. -/
def pathLimit : Nat := 4095

/-- The bytes of the path of the root, up to the slash that a path follows. -/
def rootLength : Nat := 16

/-- A name that a file system can hold. -/
def isName (name : String) : Bool :=
  !name.toList.contains '\x00' && name.utf8ByteSize ≤ nameLimit

/-- A path that a file system can follow. -/
def isPath (path : String) : Bool :=
  !path.toList.contains '\x00' && rootLength + path.utf8ByteSize ≤ pathLimit

/-- The most bytes of the name of a file in the folder of a path: the path of the file has an end,
and a slash before the name unless the path of the folder ends in one. -/
def roomBelow (path : String) : Nat :=
  let slash := if path = "" ∨ path.toList.getLast? = some '/' then 0 else 1
  min nameLimit (pathLimit - (rootLength + path.utf8ByteSize + slash))

/-- A folder on the way of a path. -/
structure Location where
  /-- What is in the folder. -/
  entries : Table Node
  /-- The folders above it, the nearest first: the name of the one below, and what else is there. -/
  above : List (String × Table Node)

namespace Location

/-- The folder above. -/
def up (l : Location) : Location :=
  match l.above with
  | [] => l
  | (name, others) :: above => ⟨Table.insert others name (.folder l.entries), above⟩

/-- The folder of a name. If `make` says so, it is made in case nothing has the name. -/
def down? (make : Bool) (l : Location) (name : String) : Option Location :=
  match l.entries.find? name with
  | some (.folder entries) => some ⟨entries, (name, l.entries.erase name) :: l.above⟩
  | some .file => none
  | none => if make && isName name then some ⟨[], (name, l.entries) :: l.above⟩ else none

/-- The folder to which names lead, where `..` leads to the folder above. Folders on the way are
made, the last one if `makeLast` says so. -/
def follow? (makeLast : Bool) : Location → List String → Option Location
  | l, [] => some l
  | l, name :: rest =>
    if name = ".." then follow? makeLast l.up rest
    else do
      let next ← l.down? (makeLast || !rest.isEmpty) name
      follow? makeLast next rest

/-- The folder to which a path leads from a root, made with all folders on the way. A path that ends
in `.` asks for what is in the folder, which therefore has to be there. -/
def ofPath? (root : Table Node) (path : String) : Option Location :=
  let components := (path.splitOn "/").filter (· != "")
  if isPath path then
    follow? (components.getLast? != some ".") ⟨root, []⟩ (components.filter (· != "."))
  else none

end Location

end Licensing
