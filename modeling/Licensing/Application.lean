import Licensing.Creator
import Licensing.Guard.Slot
import Licensing.Manager

/-!
# What an application has once

An application has one place for a guard and one for a creator. Both are filled once.

## Main definitions

* `Application` — the two places.
* `Application.createCreator`, `Application.creatorOf` — the creator of the application.
* `Application.newManager` — a manager, whose making puts a guard into its place.
-/

namespace Licensing

/-- The place of the guard and the place of the creator. -/
structure Application (σ : Type) where
  guard : GuardSlot σ
  creator : Option Creator

namespace Application

variable {σ : Type}

/-- An application with empty places. -/
def fresh : Application σ :=
  ⟨GuardSlot.empty, none⟩

/-- Puts a creator into its place unless there is one. -/
def createCreator (a : Application σ) (c : Creator) : Application σ :=
  match a.creator with
  | some _ => a
  | none => { a with creator := some c }

/-- The creator in its place. -/
def creatorOf (a : Application σ) : Except Error Creator :=
  match a.creator with
  | some c => .ok c
  | none => .error .creatorNotInitialized

/-- A manager. Its making puts a guard into its place, unless its configuration cannot be used. -/
def newManager (a : Application σ) (config : Config) : Except Error (Manager × Application σ) := do
  let m ← Manager.ofConfig config
  return (m, { a with guard := a.guard.install })

end Application

end Licensing
