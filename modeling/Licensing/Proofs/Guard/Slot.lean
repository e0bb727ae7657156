import Licensing.Guard.Slot
import Licensing.Proofs.Except

/-!
# What is refused once the slot is filled

The slot of the guard is filled by the first use that brings a policy, and no later use changes what
is in it. Whether the guard itself is in front of that policy depends on the policy alone: one that
refuses none of the probes is put behind the guard, any other one is taken as it is.

## Main definitions

* `Permission.IsGuarded` — the requests that the guard refuses.
* `Policy.Refuses` — a policy refuses a request, whatever the state.
* `SlotUse`, `GuardSlot.use`, `GuardSlot.after` — uses of the slot and runs of them.

## Main results

* `GuardSlot.after_of_filled` — a run leaves a filled slot as it is.
* `GuardSlot.check_after_filling` — what is refused after the slot is filled.
* `GuardSlot.not_all_guarded_refused` — a policy that refuses a single probe may grant the others.
-/

namespace Licensing

variable {σ : Type}

/-- The request is to replace the guard, or to reach a member of a protected type. -/
def Permission.IsGuarded : Permission → Prop
  | replaceGuard => True
  | suppressAccessChecks targets => ∃ m ∈ targets, m.isProtected = true
  | other _ => False

/-- A policy refuses a request with one error, whatever the state, and leaves the state alone. -/
def Policy.Refuses (policy : Policy σ) (permission : Permission) : Prop :=
  ∃ e, policy permission = throw e

/-- The guard itself has something against the guarded requests only. -/
theorem LicenseGuard.verdict_eq_ok_iff {permission : Permission} :
    verdict permission = .ok () ↔ ¬ permission.IsGuarded := by
  cases permission with
  | replaceGuard => simp [verdict, Permission.IsGuarded]
  | suppressAccessChecks targets =>
    simp only [verdict, Permission.IsGuarded, not_exists, not_and]
    rcases h : targets.find? Member.isProtected with _ | m
    · simpa [List.find?_eq_none] using h
    · have found := List.mem_of_find?_eq_some h
      have guarded : m.isProtected = true := List.find?_some h
      simpa using ⟨m, found, guarded⟩
  | other text => simp [verdict, Permission.IsGuarded]

/-- A guard refuses all guarded requests, whatever is behind it. -/
theorem LicenseGuard.refuses_of_isGuarded (g : LicenseGuard σ) {permission : Permission}
    (guarded : permission.IsGuarded) : g.policy.Refuses permission := by
  rcases h : verdict permission with e | ⟨⟩
  · exact ⟨e, by simp only [policy, h]⟩
  · exact absurd guarded (verdict_eq_ok_iff.mp h)

/-! ### Policies with fixed verdicts -/

/-- A policy refuses one of some requests if and only if one of its verdicts on them is a
refusal. -/
theorem refusesOne_ofVerdicts (verdict : Permission → Except Error Unit)
    (permissions : List Permission) :
    refusesOne (Policy.ofVerdicts verdict : Policy σ) permissions =
      pure (permissions.any fun permission => !(verdict permission).isOk) := by
  induction permissions with
  | nil => rfl
  | cons permission permissions ih =>
    rw [refusesOne, ih, List.any_cons, Policy.ofVerdicts]
    rcases verdict permission with e | ⟨⟩ <;> rfl

/-- The fixed verdicts refuse one of the probes. -/
def refusesProbe (verdict : Permission → Except Error Unit) : Bool :=
  probes.any fun permission => !(verdict permission).isOk

theorem refusesProbe_eq_true_iff {verdict : Permission → Except Error Unit} :
    refusesProbe verdict = true ↔ ∃ probe ∈ probes, verdict probe ≠ .ok () := by
  have refused (probe : Permission) :
      (!(verdict probe).isOk) = true ↔ verdict probe ≠ .ok () := by
    rcases verdict probe with e | ⟨⟩ <;> simp [Except.isOk, Except.toBool]
  simp only [refusesProbe, List.any_eq_true, refused]

/-- What stands in the slot after a policy with fixed verdicts was put there. -/
def guardOver (verdict : Permission → Except Error Unit) : Policy σ :=
  if refusesProbe verdict then .ofVerdicts verdict
  else (LicenseGuard.inFrontOf (.ofVerdicts verdict)).policy

/-! ### Uses of the slot -/

/-- A use of the slot. -/
inductive SlotUse (σ : Type) where
  | install
  | installOver (existing : Policy σ)
  | replace (policy : Policy σ)
  | active
  | check (permission : Permission)

/-- What comes of a use of the slot. -/
inductive SlotOutcome (σ : Type) where
  /-- What stands in the slot. -/
  | guard (active : Option (Policy σ))
  /-- Whether what was asked for is granted. -/
  | verdict (result : Except Error Unit)

namespace GuardSlot

/-- What comes of a use, and the slot after it. -/
def use (slot : GuardSlot σ) : SlotUse σ → StateM σ (SlotOutcome σ × GuardSlot σ)
  | .install => return (.guard slot.install.active, slot.install)
  | .installOver existing => do
    let (after, _) ← slot.installOver existing
    return (.guard after.active, after)
  | .replace policy => do
    let (result, after) ← slot.replace policy
    return (.verdict result, after)
  | .active => return (.guard slot.active, slot)
  | .check permission => do
    let result ← (slot.check permission).run
    return (.verdict result, slot)

/-- What comes of uses, one after the other, and the slot after them. -/
def useAll (slot : GuardSlot σ) : List (SlotUse σ) → StateM σ (List (SlotOutcome σ) × GuardSlot σ)
  | [] => return ([], slot)
  | u :: uses => do
    let (outcome, next) ← slot.use u
    let (outcomes, last) ← next.useAll uses
    return (outcome :: outcomes, last)

/-- The slot after uses that begin in a state. -/
def after (slot : GuardSlot σ) (uses : List (SlotUse σ)) (s : σ) : GuardSlot σ :=
  ((slot.useAll uses).run s).1.2

/-- The slot after a first use that begins in a state, and the state then. -/
theorem after_cons (slot : GuardSlot σ) (u : SlotUse σ) (uses : List (SlotUse σ)) (s : σ) :
    slot.after (u :: uses) s =
      ((slot.use u).run s).1.2.after uses ((slot.use u).run s).2 :=
  rfl

/-- No use changes what is in a filled slot. -/
theorem use_of_filled {slot : GuardSlot σ} {policy : Policy σ} (filled : slot.active = some policy)
    (u : SlotUse σ) (s : σ) : ((slot.use u).run s).1.2 = slot := by
  cases u with
  | install =>
    simp only [use, install, filled]
    rfl
  | installOver existing =>
    simp only [use, installOver, filled]
    rfl
  | replace policy =>
    simp only [use, replace, installOver, filled]
    rfl
  | active => rfl
  | check permission => rfl

/-- A run leaves a filled slot as it is. -/
theorem after_of_filled {slot : GuardSlot σ} {policy : Policy σ}
    (filled : slot.active = some policy) (uses : List (SlotUse σ)) (s : σ) :
    slot.after uses s = slot := by
  induction uses generalizing s with
  | nil => rfl
  | cons u uses ih => rw [after_cons, use_of_filled filled, ih]

/-! ### Filling the slot -/

theorem installOver_empty (verdict : Permission → Except Error Unit) :
    (empty : GuardSlot σ).installOver (.ofVerdicts verdict) =
      pure (⟨some (guardOver verdict)⟩, if refusesProbe verdict then .kept else .wrapped) := by
  have suitable : isSuitable (.ofVerdicts verdict : Policy σ) = pure (refusesProbe verdict) :=
    refusesOne_ofVerdicts verdict probes
  rw [installOver, guardOver]
  simp only [empty, suitable, pure_bind]
  split <;> rfl

theorem replace_empty (verdict : Permission → Except Error Unit) :
    (empty : GuardSlot σ).replace (.ofVerdicts verdict) =
      pure (.ok (), ⟨some (guardOver verdict)⟩) := by
  rw [replace, installOver_empty, pure_bind]
  cases refusesProbe verdict <;> rfl

/-- After a run that begins by putting in the guard, the guard answers. -/
theorem check_after_install (later : List (SlotUse σ)) (s : σ) :
    ((empty : GuardSlot σ).after (.install :: later) s).check = LicenseGuard.alone.policy := by
  rw [after_cons]
  exact congrArg check (after_of_filled rfl later _)

/-- After a run that begins by putting in a policy with fixed verdicts, this policy or the guard in
front of it answers. -/
theorem check_after_policy {verdict : Permission → Except Error Unit} {filling : SlotUse σ}
    (fills : filling ∈ [.installOver (.ofVerdicts verdict), .replace (.ofVerdicts verdict)])
    (later : List (SlotUse σ)) (s : σ) :
    ((empty : GuardSlot σ).after (filling :: later) s).check = guardOver verdict := by
  have filled : (((empty : GuardSlot σ).use filling).run s).1.2 = ⟨some (guardOver verdict)⟩ := by
    simp only [List.mem_cons, List.not_mem_nil, or_false] at fills
    rcases fills with rfl | rfl
    · rw [use, installOver_empty]
      rfl
    · rw [use, replace_empty]
      rfl
  rw [after_cons, filled, after_of_filled rfl]
  rfl

/-- **What a filled slot refuses.** Once the guard is put into an empty slot, all guarded requests
are refused, whatever uses follow. The same holds once a policy is put there that grants all probes.
A policy that refuses one of the probes is the guard from then on: every request has the verdict of
the policy. -/
theorem check_after_filling (verdict : Permission → Except Error Unit) (later : List (SlotUse σ))
    (s : σ) (permission : Permission) :
    (permission.IsGuarded →
      ((empty : GuardSlot σ).after (.install :: later) s).check.Refuses permission) ∧
    ∀ filling ∈ [SlotUse.installOver (.ofVerdicts verdict), .replace (.ofVerdicts verdict)],
      ((∀ probe ∈ probes, verdict probe = .ok ()) → permission.IsGuarded →
        ((empty : GuardSlot σ).after (filling :: later) s).check.Refuses permission) ∧
      ((∃ probe ∈ probes, verdict probe ≠ .ok ()) →
        ((empty : GuardSlot σ).after (filling :: later) s).check permission =
          Policy.ofVerdicts verdict permission) := by
  refine ⟨fun guarded => ?_, fun filling fills => ⟨fun granted guarded => ?_, fun refused => ?_⟩⟩
  · rw [check_after_install]
    exact LicenseGuard.refuses_of_isGuarded _ guarded
  · have none : ¬ refusesProbe verdict = true := fun refuses => by
      obtain ⟨probe, hprobe, refused⟩ := refusesProbe_eq_true_iff.mp refuses
      exact refused (granted probe hprobe)
    rw [check_after_policy fills, guardOver, if_neg none]
    exact LicenseGuard.refuses_of_isGuarded _ guarded
  · rw [check_after_policy fills, guardOver, if_pos (refusesProbe_eq_true_iff.mpr refused)]

/-- The policy that refuses to be replaced and nothing else. -/
def keepsItsPlace : Permission → Except Error Unit
  | .replaceGuard => .error .guardReplacementProhibited
  | _ => .ok ()

/-- A policy that grants all that it is asked is put behind the guard, and one that only refuses to
be replaced is not. -/
theorem check_after_filling_two_policies :
    (((empty : GuardSlot Unit).after
        [.replace (.ofVerdicts fun _ => .ok ()), .installOver (.ofVerdicts keepsItsPlace)]
        ()).check.Refuses .replaceGuard) ∧
      ((empty : GuardSlot Unit).after [.installOver (.ofVerdicts keepsItsPlace), .install] ()).check
          (.suppressAccessChecks [⟨Member.licenseOwner, "features"⟩]) =
        pure () := by
  constructor
  · refine ((check_after_filling (fun _ => .ok ()) _ () .replaceGuard).2 _ ?_).1 ?_ trivial
    · simp
    · simp
  · refine ((check_after_filling keepsItsPlace _ () _).2 _ ?_).2 ?_
    · simp
    · exact ⟨.replaceGuard, by decide, by simp [keepsItsPlace]⟩

/-- The same does not hold of every policy: one that only refuses to be replaced is the guard, and
grants access to the features of licenses. -/
theorem not_all_guarded_refused :
    ¬ ∀ (verdict : Permission → Except Error Unit)
      (filling : SlotUse Unit) (later : List (SlotUse Unit)) (permission : Permission),
      filling ∈ [.install, .installOver (.ofVerdicts verdict), .replace (.ofVerdicts verdict)] →
      permission.IsGuarded →
      ((empty : GuardSlot Unit).after (filling :: later) ()).check.Refuses permission := by
  intro refused
  have fills : (.installOver (.ofVerdicts keepsItsPlace) : SlotUse Unit) ∈
      [SlotUse.installOver (.ofVerdicts keepsItsPlace), .replace (.ofVerdicts keepsItsPlace)] :=
    List.mem_cons_self
  obtain ⟨e, h⟩ := refused keepsItsPlace (.installOver (.ofVerdicts keepsItsPlace)) []
    (.suppressAccessChecks [⟨Member.licenseOwner, "features"⟩]) (by simp)
    ⟨_, List.mem_singleton_self _, by decide⟩
  rw [check_after_policy fills] at h
  have granted := congrArg (fun answer : Action Unit Unit => (answer.run ()).1) h
  cases granted

end GuardSlot

end Licensing
