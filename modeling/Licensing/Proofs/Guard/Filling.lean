import Licensing.Proofs.Guard.Slot

/-!
# The slot of the guard is filled once

In a run on an empty slot, the first use that brings a policy settles the rest of the run. Before
it, everything is granted and there is no guard. After it, the guard is always the same one; a
policy that is brought later is not even asked, and to replace the guard is refused.

## Main definitions

* `LicenseGuard.over` — the guard that is made of a policy.
* `Filling`, `Filling.use` — the uses that fill an empty slot.
* `Filling.policy`, `Filling.outcome` — the policy that is in the slot then, and what comes of the
  use.
* `SlotUse.Looks` — the uses that bring no policy.
* `SlotUse.whenEmpty`, `SlotUse.whenFilled`, `SlotUse.whenSettled` — what comes of a use while the
  slot is empty, while a policy is in it, and while one is in it whose answers depend on the request
  alone.

## Main results

* `GuardSlot.useAll_empty`, `GuardSlot.useAll_filled` — runs on an empty slot and on a filled one.
* `GuardSlot.filled_once` — every run on an empty slot.
-/

namespace Licensing

variable {σ : Type}

/-- What a policy answers to a request depends on the request alone. -/
def Policy.IsPure (policy : Policy σ) : Prop :=
  ∃ verdict, policy = .ofVerdicts verdict

/-- The answers of a guard depend on the request alone if those of the policy behind it do. -/
theorem LicenseGuard.isPure_policy {g : LicenseGuard σ} (h : ∀ next ∈ g.next, next.IsPure) :
    g.policy.IsPure := by
  obtain ⟨next⟩ := g
  cases next with
  | none =>
    refine ⟨verdict, funext fun permission => ?_⟩
    rcases own : verdict permission with e | ⟨⟩ <;> simp [policy, Policy.ofVerdicts, own]
  | some next =>
    obtain ⟨later, rfl⟩ := h next rfl
    refine ⟨fun permission => verdict permission >>= fun _ => later permission,
      funext fun permission => ?_⟩
    rcases own : verdict permission with e | ⟨⟩
    · simp [policy, Policy.ofVerdicts, own, error_bind]
    · simp [policy, Policy.ofVerdicts, own, ok_bind]

/-- The guard that is made of a policy: the policy itself if it is suitable, and else the guard in
front of it. -/
def LicenseGuard.over (given : Policy σ) : StateM σ (Policy σ) := do
  if ← isSuitable given then return given
  else return (inFrontOf given).policy

/-- If the answers of a policy depend on the request alone, then so do those of the guard that is
made of it, and which one this is does not depend on the state. -/
theorem Policy.IsPure.exists_over {given : Policy σ} (h : given.IsPure) :
    ∃ verdict, LicenseGuard.over given = pure (.ofVerdicts verdict) := by
  obtain ⟨verdict, rfl⟩ := h
  have suitable : isSuitable (.ofVerdicts verdict : Policy σ) = pure (refusesProbe verdict) :=
    refusesOne_ofVerdicts verdict probes
  rw [LicenseGuard.over, suitable, pure_bind]
  cases refusesProbe verdict with
  | true => exact ⟨verdict, rfl⟩
  | false =>
    have behind : ∀ next ∈ (LicenseGuard.inFrontOf (.ofVerdicts verdict : Policy σ)).next,
        next.IsPure := by
      rintro next ⟨⟩
      exact ⟨verdict, rfl⟩
    obtain ⟨both, eq⟩ := LicenseGuard.isPure_policy behind
    exact ⟨both, congrArg pure eq⟩

/-! ### Uses that fill the slot -/

/-- A use that fills an empty slot. -/
inductive Filling (σ : Type) where
  | install
  | installOver (existing : Policy σ)
  | replace (policy : Policy σ)

namespace Filling

/-- As one of all uses. -/
def use : Filling σ → SlotUse σ
  | install => .install
  | installOver existing => .installOver existing
  | replace policy => .replace policy

/-- The policy that is in the slot then: the guard, made of the policy that was brought if there is
one. -/
def policy : Filling σ → StateM σ (Policy σ)
  | install => return LicenseGuard.alone.policy
  | installOver given | replace given => LicenseGuard.over given

/-- What comes of the use, given the policy that is in the slot then. -/
def outcome (active : Policy σ) : Filling σ → SlotOutcome σ
  | install | installOver _ => .guard (some active)
  | replace _ => .verdict (.ok ())

/-- The answers of a policy that is brought depend on the request alone. -/
def IsPure : Filling σ → Prop
  | install => True
  | installOver given | replace given => given.IsPure

/-- If the answers of the policy that is brought depend on the request alone, then so do those of
the policy that is in the slot, and which one this is does not depend on the state. -/
theorem IsPure.exists_policy {f : Filling σ} (h : f.IsPure) :
    ∃ verdict, f.policy = pure (.ofVerdicts verdict) := by
  cases f with
  | install =>
    obtain ⟨verdict, eq⟩ := LicenseGuard.isPure_policy (g := (LicenseGuard.alone : LicenseGuard σ))
      (by rintro next ⟨⟩)
    exact ⟨verdict, congrArg pure eq⟩
  | installOver given | replace given => exact Policy.IsPure.exists_over h

end Filling

/-! ### What comes of uses -/

namespace SlotUse

/-- The use brings no policy. -/
def Looks : SlotUse σ → Prop
  | active | check _ => True
  | install | installOver _ | replace _ => False

/-- What comes of a use that brings no policy while the slot is empty: there is no guard, and what
is asked for is granted. -/
def whenEmpty : SlotUse σ → SlotOutcome σ
  | check _ => .verdict (.ok ())
  | active | install | installOver _ | replace _ => .guard none

/-- What comes of a use while a policy is in the slot: it is the guard, it is not replaced, and it
says what is granted. -/
def whenFilled (policy : Policy σ) : SlotUse σ → StateM σ (SlotOutcome σ)
  | active | install | installOver _ => return .guard (some policy)
  | replace _ => return .verdict (.error .guardReplacementProhibited)
  | check permission => return .verdict (← (policy permission).run)

/-- What comes of a use while a policy with fixed verdicts is in the slot. -/
def whenSettled (verdict : Permission → Except Error Unit) : SlotUse σ → SlotOutcome σ
  | active | install | installOver _ => .guard (some (.ofVerdicts verdict))
  | replace _ => .verdict (.error .guardReplacementProhibited)
  | check permission => .verdict (verdict permission)

theorem whenFilled_ofVerdicts (verdict : Permission → Except Error Unit) (u : SlotUse σ) :
    u.whenFilled (.ofVerdicts verdict) = pure (u.whenSettled verdict) := by
  cases u with
  | check permission =>
    rw [whenFilled, whenSettled, Policy.ofVerdicts]
    rcases verdict permission with e | ⟨⟩ <;> rfl
  | install | installOver existing | replace policy | active => rfl

/-- Either all uses of a run bring no policy, or there is a first one that does. -/
theorem looks_or_exists_filling (uses : List (SlotUse σ)) :
    (∀ u ∈ uses, u.Looks) ∨
      ∃ early f later, (∀ u ∈ early, u.Looks) ∧ uses = early ++ Filling.use f :: later := by
  induction uses with
  | nil => exact .inl (by simp)
  | cons u uses ih =>
    have first (f : Filling σ) : ∃ early g later, (∀ u ∈ early, u.Looks) ∧
        f.use :: uses = early ++ Filling.use g :: later :=
      ⟨[], f, uses, by simp, rfl⟩
    have next (look : u.Looks) : (∀ v ∈ u :: uses, v.Looks) ∨
        ∃ early f later, (∀ v ∈ early, v.Looks) ∧ u :: uses = early ++ Filling.use f :: later := by
      rcases ih with looks | ⟨early, f, later, looks, rfl⟩
      · exact .inl (List.forall_mem_cons.mpr ⟨look, looks⟩)
      · exact .inr ⟨u :: early, f, later, List.forall_mem_cons.mpr ⟨look, looks⟩, rfl⟩
    cases u with
    | install => exact .inr (first .install)
    | installOver existing => exact .inr (first (.installOver existing))
    | replace policy => exact .inr (first (.replace policy))
    | active => exact next trivial
    | check permission => exact next trivial

end SlotUse

/-! ### Runs -/

namespace GuardSlot

theorem useAll_append (slot : GuardSlot σ) (before later : List (SlotUse σ)) :
    slot.useAll (before ++ later) = do
      let (outcomes, middle) ← slot.useAll before
      let (more, last) ← middle.useAll later
      return (outcomes ++ more, last) := by
  induction before generalizing slot with
  | nil => simp [useAll]
  | cons u before ih => simp [useAll, ih]

/-- A use that brings no policy leaves the slot empty. -/
theorem use_empty {u : SlotUse σ} (look : u.Looks) : empty.use u = pure (u.whenEmpty, empty) := by
  cases u with
  | active | check permission => rfl
  | install | installOver existing | replace policy => exact look.elim

/-- A use leaves the policy in the slot as it is. A policy that it brings is not asked. -/
theorem use_filled (policy : Policy σ) (u : SlotUse σ) :
    (⟨some policy⟩ : GuardSlot σ).use u = do return (← u.whenFilled policy, ⟨some policy⟩) := by
  cases u with
  | install | installOver existing | replace policy | active => rfl
  | check permission => simp [use, check, SlotUse.whenFilled]

/-- The first policy that is brought is in the slot from then on, or the guard in front of it. -/
theorem use_filling (f : Filling σ) :
    empty.use f.use = do
      let active ← f.policy
      return (f.outcome active, ⟨some active⟩) := by
  cases f with
  | install => rfl
  | installOver given =>
    simp only [Filling.use, use, installOver, empty, Filling.policy, LicenseGuard.over, bind_assoc]
    refine bind_congr fun suitable => ?_
    cases suitable <;> rfl
  | replace given =>
    simp only [Filling.use, use, replace, installOver, empty, Filling.policy, LicenseGuard.over,
      bind_assoc]
    refine bind_congr fun suitable => ?_
    cases suitable <;> rfl

theorem useAll_empty {uses : List (SlotUse σ)} (looks : ∀ u ∈ uses, u.Looks) :
    empty.useAll uses = pure (uses.map SlotUse.whenEmpty, empty) := by
  induction uses with
  | nil => rfl
  | cons u uses ih =>
    obtain ⟨look, looks⟩ := List.forall_mem_cons.mp looks
    simp [useAll, use_empty look, ih looks]

theorem useAll_filled (policy : Policy σ) (uses : List (SlotUse σ)) :
    (⟨some policy⟩ : GuardSlot σ).useAll uses = do
      return (← uses.mapM (SlotUse.whenFilled policy), ⟨some policy⟩) := by
  induction uses with
  | nil => simp [useAll]
  | cons u uses ih => simp [useAll, use_filled, ih, List.mapM_cons]

/-- A run in which uses that bring no policy come before one that does. -/
theorem useAll_filling {looks : List (SlotUse σ)} (all : ∀ u ∈ looks, u.Looks) (f : Filling σ)
    (later : List (SlotUse σ)) :
    empty.useAll (looks ++ f.use :: later) = do
      let active ← f.policy
      let outcomes ← later.mapM (SlotUse.whenFilled active)
      return (looks.map SlotUse.whenEmpty ++ f.outcome active :: outcomes, ⟨some active⟩) := by
  rw [useAll_append, useAll_empty all, pure_bind]
  simp [useAll, use_filling, useAll_filled]

/-- **The slot is filled once.** Either no use of a run brings a policy, or there is a first one
that does. Up to that one there is no guard, and everything that is asked for is granted. From then
on the same policy is the guard: it is the one that was brought, if that one is suitable, and else
the guard in front of it. Later uses give this policy and neither change it nor ask the policies
that they bring; only the use that filled the slot may have replaced the guard, and each later
attempt is refused as prohibited.

If the answers of the policy that was brought depend on the request alone, then so do those of the
guard, and whenever a request is checked later, its answer is the same. -/
theorem filled_once :
    (∀ uses : List (SlotUse σ), (∀ u ∈ uses, u.Looks) ∨
      ∃ looks f later, (∀ u ∈ looks, u.Looks) ∧ uses = looks ++ Filling.use f :: later) ∧
    ∀ looks : List (SlotUse σ), (∀ u ∈ looks, u.Looks) →
      empty.useAll looks = pure (looks.map SlotUse.whenEmpty, empty) ∧
      ∀ f : Filling σ,
        (∀ later, empty.useAll (looks ++ f.use :: later) = do
          let active ← f.policy
          let outcomes ← later.mapM (SlotUse.whenFilled active)
          return (looks.map SlotUse.whenEmpty ++ f.outcome active :: outcomes, ⟨some active⟩)) ∧
        (f.IsPure → ∃ verdict, ∀ later, empty.useAll (looks ++ f.use :: later) =
          pure (looks.map SlotUse.whenEmpty ++ f.outcome (.ofVerdicts verdict) ::
            later.map (SlotUse.whenSettled verdict), ⟨some (.ofVerdicts verdict)⟩)) := by
  refine ⟨SlotUse.looks_or_exists_filling, fun looks all => ⟨useAll_empty all, fun f =>
    ⟨useAll_filling all f, fun isPure => ?_⟩⟩⟩
  obtain ⟨verdict, brought⟩ := isPure.exists_policy
  refine ⟨verdict, fun later => ?_⟩
  have settled : later.mapM (SlotUse.whenFilled (.ofVerdicts verdict)) =
      (pure (later.map (SlotUse.whenSettled verdict)) : StateM σ _) := by
    rw [funext (SlotUse.whenFilled_ofVerdicts verdict), List.mapM_pure]
  rw [useAll_filling all, brought, pure_bind, settled, pure_bind]

/-- A run on an empty slot in which a policy that refuses to be replaced is brought after two looks;
the guard that is brought later is not put there. -/
theorem filled_once_at_third_use :
    ∃ verdict, (empty : GuardSlot Unit).useAll
        [.active, .check .replaceGuard, .replace (.ofVerdicts keepsItsPlace), .install,
          .check .replaceGuard, .replace (.ofVerdicts fun _ => .ok ()), .check .replaceGuard] =
      pure ([.guard none, .verdict (.ok ()), .verdict (.ok ()), .guard (some (.ofVerdicts verdict)),
        .verdict (verdict .replaceGuard), .verdict (.error .guardReplacementProhibited),
        .verdict (verdict .replaceGuard)], ⟨some (.ofVerdicts verdict)⟩) := by
  have looks : ∀ u ∈ [SlotUse.active, .check .replaceGuard], (u : SlotUse Unit).Looks := by
    simp [SlotUse.Looks]
  obtain ⟨-, ofFilling⟩ := (filled_once.2 _ looks).2 (.replace (.ofVerdicts keepsItsPlace))
  obtain ⟨verdict, run⟩ := ofFilling ⟨keepsItsPlace, rfl⟩
  exact ⟨verdict, run _⟩

end GuardSlot

end Licensing
