import Licensing.Guard.Permission

/-!
# The guard

The guard refuses its own replacement and access to the members of protected types, and leaves all
other requests to the policy behind it, if there is one. It is kept in a slot that is filled once.

## Main definitions

* `LicenseGuard` — a guard, with the policy behind it.
* `LicenseGuard.verdict` — what the guard itself says to a request.
* `LicenseGuard.policy` — what the guard and the policy behind it say.
* `isSuitable` — a policy refuses one of the requests that the guard is there to refuse.
* `GuardSlot` — the place of the guard, with `install`, `installOver`, `replace` and `check`.
-/

namespace Licensing

variable {σ : Type}

/-- A guard, with the policy behind it. -/
structure LicenseGuard (σ : Type) where
  next : Option (Policy σ)

namespace LicenseGuard

/-- A guard with nothing behind it. -/
def alone : LicenseGuard σ :=
  ⟨none⟩

/-- A guard in front of a policy. -/
def inFrontOf (next : Policy σ) : LicenseGuard σ :=
  ⟨some next⟩

/-- What the guard itself says to a request. -/
def verdict : Permission → Except Error Unit
  | .replaceGuard => .error .guardReplacementProhibited
  | .suppressAccessChecks targets =>
    match targets.find? Member.isProtected with
    | some m => .error (.accessDenied ("access to non-public member " ++ m.path ++ " prohibited"))
    | none => .ok ()
  | .other _ => .ok ()

/-- What the guard says and, if it has nothing against a request, the policy behind it. -/
def policy (g : LicenseGuard σ) : Policy σ := fun permission =>
  match verdict permission with
  | .error e => throw e
  | .ok () =>
    match g.next with
    | some next => next permission
    | none => pure ()

/-- The guard as diagnostics show it. -/
def describe (g : LicenseGuard σ) : String :=
  Text.record "LicenseGuard" true [("chained", if g.next.isSome then "true" else "false")]

end LicenseGuard

/-- Requests that the guard refuses. -/
def probes : List Permission :=
  [.suppressAccessChecks [⟨Member.licenseOwner, "deserialize"⟩],
   .suppressAccessChecks [⟨Member.managerOwner, "validate_license"⟩],
   .replaceGuard]

/-- The policy refuses one of the requests. It is not asked again after the first refusal. -/
def refusesOne (policy : Policy σ) : List Permission → StateM σ Bool
  | [] => return false
  | permission :: rest => do
    match ← (policy permission).run with
    | .error _ => return true
    | .ok () => refusesOne policy rest

/-- The policy refuses one of the requests that the guard is there to refuse. -/
def isSuitable (policy : Policy σ) : StateM σ Bool :=
  refusesOne policy probes

/-- What became of a policy that was given as the guard. -/
inductive Placement where
  /-- It is the guard. -/
  | kept
  /-- It stands behind the guard. -/
  | wrapped
  /-- There was a guard already. -/
  | discarded
  deriving DecidableEq, Repr

/-- The place of the guard, filled once. -/
structure GuardSlot (σ : Type) where
  active : Option (Policy σ)

namespace GuardSlot

/-- The place without a guard. -/
def empty : GuardSlot σ :=
  ⟨none⟩

/-- Puts a guard there unless there is one. -/
def install (slot : GuardSlot σ) : GuardSlot σ :=
  match slot.active with
  | some _ => slot
  | none => ⟨some LicenseGuard.alone.policy⟩

/-- Puts a policy there unless there is a guard. A policy that is not suitable is put behind a
guard. -/
def installOver (slot : GuardSlot σ) (existing : Policy σ) :
    StateM σ (GuardSlot σ × Placement) := do
  match slot.active with
  | some _ => return (slot, .discarded)
  | none =>
    if ← isSuitable existing then
      return (⟨some existing⟩, .kept)
    else
      return (⟨some (LicenseGuard.inFrontOf existing).policy⟩, .wrapped)

/-- Puts a policy there as `installOver` does, and fails if there is a guard. -/
def replace (slot : GuardSlot σ) (policy : Policy σ) :
    StateM σ (Except Error Unit × GuardSlot σ) := do
  let (after, placement) ← slot.installOver policy
  match placement with
  | .discarded => return (.error .guardReplacementProhibited, after)
  | .kept | .wrapped => return (.ok (), after)

/-- What the guard says to a request. Without a guard everything is granted. -/
def check (slot : GuardSlot σ) : Policy σ := fun permission =>
  match slot.active with
  | some policy => policy permission
  | none => pure ()

end GuardSlot

end Licensing
