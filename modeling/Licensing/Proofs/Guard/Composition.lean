import Licensing.Proofs.Guard.Slot

/-!
# Guards in front of guards

A guard in front of a policy adds refusals of its own and takes no refusal away. It asks the policy
only about requests that it has nothing against, so that a second guard in front of the first one
changes nothing any more.

## Main definitions

* `LicenseGuard.nested` — several guards in front of a policy.
* `Permission.IsRefused` — the requests that a guard itself refuses, and the error of each.
* `Policy.ask` — what comes of asking a policy.
* `Policy.recorded` — a policy that keeps a record of what it is asked.
* `Policy.GrantsInTurn` — a policy grants some requests, asked one after the other.

## Main results

* `LicenseGuard.verdict_eq_error_iff` — a guard itself refuses these requests with these errors.
* `LicenseGuard.nested_succ` — several guards are like one.
* `LicenseGuard.nested_adds_refusals` — what several guards in front of a policy grant and refuse,
  and that they are suitable as the guard.
-/

namespace Licensing

variable {σ : Type}

/-! ### What a guard refuses itself -/

/-- The requests that a guard itself refuses: to be replaced, and to reach members of which some are
protected, in which case the error tells the first of these. -/
inductive Permission.IsRefused : Permission → Error → Prop
  | replaceGuard : IsRefused .replaceGuard .guardReplacementProhibited
  | member {before after : List Member} {m : Member} (guarded : m.isProtected = true)
      (first : ∀ other ∈ before, other.isProtected = false) :
      IsRefused (.suppressAccessChecks (before ++ m :: after))
        (.accessDenied ("access to non-public member " ++ m.path ++ " prohibited"))

namespace LicenseGuard

theorem verdict_eq_error_iff {permission : Permission} {e : Error} :
    verdict permission = .error e ↔ permission.IsRefused e := by
  constructor
  · intro refused
    cases permission with
    | replaceGuard =>
      cases refused
      exact .replaceGuard
    | suppressAccessChecks targets =>
      simp only [verdict] at refused
      split at refused
      · next m found =>
        obtain ⟨guarded, before, after, rfl, first⟩ := List.find?_eq_some_iff_append.mp found
        cases refused
        exact .member guarded (by simpa using first)
      · cases refused
    | other text => cases refused
  · intro refused
    cases refused with
    | replaceGuard => rfl
    | @member before after m guarded first =>
      have found : (before ++ m :: after).find? Member.isProtected = some m :=
        List.find?_eq_some_iff_append.mpr ⟨guarded, before, after, rfl, by simpa using first⟩
      simp only [verdict, found]

/-- A guard itself refuses exactly the guarded requests. -/
theorem exists_isRefused_iff {permission : Permission} :
    (∃ e, permission.IsRefused e) ↔ permission.IsGuarded := by
  rw [← not_iff_not, ← verdict_eq_ok_iff]
  simp only [← verdict_eq_error_iff]
  rcases verdict permission with e | ⟨⟩ <;> simp

end LicenseGuard

/-- The requests that are not guarded. -/
theorem Permission.not_isGuarded_iff {permission : Permission} :
    ¬ permission.IsGuarded ↔ permission ≠ .replaceGuard ∧
      ∀ targets, permission = .suppressAccessChecks targets →
        ∀ m ∈ targets, m.isProtected = false := by
  cases permission <;> simp [IsGuarded]

/-! ### Asking a policy -/

namespace Policy

/-- The answer of a policy to a request, and the state after it. -/
def ask (policy : Policy σ) (permission : Permission) (s : σ) : Except Error Unit × σ :=
  (policy permission).run.run s

/-- The policy that also puts each request that it is asked at the end of a record. -/
def recorded (policy : Policy σ) : Policy (σ × List Permission) := fun permission => do
  let (s, record) ← get
  let (answer, after) := policy.ask permission s
  set (after, record ++ [permission])
  match answer with
  | .ok () => return ()
  | .error e => throw e

theorem ask_recorded (policy : Policy σ) (permission : Permission) (s : σ)
    (record : List Permission) :
    policy.recorded.ask permission (s, record) =
      ((policy.ask permission s).1, (policy.ask permission s).2, record ++ [permission]) := by
  change (match (policy.ask permission s).1 with
    | .ok () => return ()
    | .error e => throw e : Action (σ × List Permission) Unit).run.run
      ((policy.ask permission s).2, record ++ [permission]) = _
  rcases (policy.ask permission s).1 with e | ⟨⟩ <;> rfl

/-- The policy grants some requests that it is asked one after the other, from one state to
another. -/
def GrantsInTurn (policy : Policy σ) : List Permission → σ → σ → Prop
  | [], s, t => s = t
  | permission :: rest, s, t =>
    ∃ middle, policy.ask permission s = (.ok (), middle) ∧ policy.GrantsInTurn rest middle t

end Policy

theorem run_refusesOne_cons (policy : Policy σ) (permission : Permission)
    (rest : List Permission) (s : σ) :
    (refusesOne policy (permission :: rest)).run s =
      match policy.ask permission s with
      | (.error _, after) => (true, after)
      | (.ok (), after) => (refusesOne policy rest).run after := by
  rw [refusesOne, StateT.run_bind, Policy.ask]
  rcases (policy permission).run.run s with ⟨e | ⟨⟩, after⟩ <;> rfl

/-- No request of some is refused if and only if all are granted, one after the other. -/
theorem refusesOne_eq_false_iff {policy : Policy σ} {permissions : List Permission} {s t : σ} :
    (refusesOne policy permissions).run s = (false, t) ↔ policy.GrantsInTurn permissions s t := by
  induction permissions generalizing s with
  | nil =>
    change (false, s) = (false, t) ↔ s = t
    simp
  | cons permission permissions ih =>
    rw [run_refusesOne_cons, Policy.GrantsInTurn]
    rcases policy.ask permission s with ⟨e | ⟨⟩, middle⟩
    · change ((true, middle) : Bool × σ) = (false, t) ↔ _
      simp
    · simp [ih]

theorem refusesOne_of_refuses {policy : Policy σ} {permission : Permission}
    (refuses : policy.Refuses permission) (rest : List Permission) :
    refusesOne policy (permission :: rest) = pure true := by
  obtain ⟨e, eq⟩ := refuses
  rw [refusesOne, eq]
  rfl

/-! ### Guards in front of guards -/

namespace LicenseGuard

/-- So many guards in front of a policy, one in front of the other. -/
def nested (policy : Policy σ) : Nat → Policy σ
  | 0 => policy
  | k + 1 => (inFrontOf (nested policy k)).policy

/-- What a guard refuses itself is refused, whatever is behind it. -/
theorem policy_of_isRefused (g : LicenseGuard σ) {permission : Permission} {e : Error}
    (refused : permission.IsRefused e) : g.policy permission = throw e := by
  simp only [policy, verdict_eq_error_iff.mpr refused]

/-- What a guard has nothing against is left to the policy behind it. -/
theorem policy_inFrontOf_of_not_isGuarded (policy : Policy σ) {permission : Permission}
    (free : ¬ permission.IsGuarded) : (inFrontOf policy).policy permission = policy permission := by
  simp only [LicenseGuard.policy, inFrontOf, verdict_eq_ok_iff.mpr free]

theorem nested_of_isRefused (policy : Policy σ) (k : Nat) {permission : Permission} {e : Error}
    (refused : permission.IsRefused e) : nested policy (k + 1) permission = throw e :=
  policy_of_isRefused _ refused

theorem nested_of_not_isGuarded (policy : Policy σ) (k : Nat) {permission : Permission}
    (free : ¬ permission.IsGuarded) : nested policy k permission = policy permission := by
  induction k with
  | zero => rfl
  | succ k ih => rw [nested, policy_inFrontOf_of_not_isGuarded _ free, ih]

/-- Several guards are like one. -/
theorem nested_succ (policy : Policy σ) (k : Nat) :
    nested policy (k + 1) = (inFrontOf policy).policy := by
  funext permission
  by_cases guarded : permission.IsGuarded
  · obtain ⟨e, refused⟩ := exists_isRefused_iff.mpr guarded
    rw [nested_of_isRefused policy k refused, policy_of_isRefused _ refused]
  · rw [nested_of_not_isGuarded policy _ guarded, policy_inFrontOf_of_not_isGuarded policy guarded]

variable {policy : Policy σ} {permission : Permission}

/-- What the guard itself refuses is refused without asking the policy. -/
theorem ask_nested_of_isRefused {e : Error} (refused : permission.IsRefused e) (k : Nat) (s : σ) :
    (nested policy (k + 1)).ask permission s = (.error e, s) := by
  rw [Policy.ask, nested_of_isRefused policy k refused]
  rfl

/-- About all other requests the policy is asked. -/
theorem ask_nested_of_not_isGuarded (free : ¬ permission.IsGuarded) (k : Nat) (s : σ) :
    (nested policy k).ask permission s = policy.ask permission s := by
  rw [Policy.ask, nested_of_not_isGuarded policy k free, Policy.ask]

theorem ask_nested_eq_ok_iff {k : Nat} {s : σ} :
    ((nested policy (k + 1)).ask permission s).1 = .ok () ↔
      ¬ permission.IsGuarded ∧ (policy.ask permission s).1 = .ok () := by
  by_cases guarded : permission.IsGuarded
  · obtain ⟨e, refused⟩ := exists_isRefused_iff.mpr guarded
    simp [ask_nested_of_isRefused refused, guarded]
  · simp [ask_nested_of_not_isGuarded guarded, guarded]

theorem ask_nested_eq_error_iff {k : Nat} {s : σ} {e : Error} :
    ((nested policy (k + 1)).ask permission s).1 = .error e ↔
      permission.IsRefused e ∨ ¬ permission.IsGuarded ∧ (policy.ask permission s).1 = .error e := by
  by_cases guarded : permission.IsGuarded
  · obtain ⟨own, refused⟩ := exists_isRefused_iff.mpr guarded
    have unique : own = e ↔ permission.IsRefused e := by
      rw [← verdict_eq_error_iff, verdict_eq_error_iff.mpr refused, Except.error.injEq]
    simp [ask_nested_of_isRefused refused, guarded, unique]
  · have free : ¬ permission.IsRefused e := fun refused =>
      guarded (exists_isRefused_iff.mp ⟨e, refused⟩)
    simp [ask_nested_of_not_isGuarded guarded, guarded, free]

/-- What the policy was asked in the end is on the record: nothing about a guarded request, and each
other request once. -/
theorem ask_nested_recorded (policy : Policy σ) (permission : Permission) (k : Nat) (s : σ)
    (record : List Permission) :
    (permission.IsGuarded →
      ((nested policy.recorded (k + 1)).ask permission (s, record)).2 = (s, record)) ∧
    (¬ permission.IsGuarded →
      ((nested policy.recorded (k + 1)).ask permission (s, record)).2 =
        ((policy.ask permission s).2, record ++ [permission])) := by
  refine ⟨fun guarded => ?_, fun free => ?_⟩
  · obtain ⟨e, refused⟩ := exists_isRefused_iff.mpr guarded
    rw [ask_nested_of_isRefused refused]
  · rw [ask_nested_of_not_isGuarded free, Policy.ask_recorded]

/-- Guards in front of a policy refuse a probe without asking the policy. -/
theorem isSuitable_nested (policy : Policy σ) (k : Nat) :
    isSuitable (nested policy (k + 1)) = pure true := by
  have guarded :
      Permission.IsGuarded (.suppressAccessChecks [⟨Member.licenseOwner, "deserialize"⟩]) :=
    ⟨_, List.mem_singleton_self _, by decide⟩
  exact refusesOne_of_refuses (refuses_of_isGuarded _ guarded) _

/-- The guard is put in front of a policy that grants all probes. -/
theorem run_installOver_of_grantsInTurn {policy : Policy σ} {s t : σ}
    (granted : policy.GrantsInTurn probes s t) :
    (GuardSlot.empty.installOver policy).run s =
      ((⟨some (inFrontOf policy).policy⟩, .wrapped), t) := by
  have unsuitable : (isSuitable policy).run s = (false, t) := refusesOne_eq_false_iff.mpr granted
  change (isSuitable policy >>= fun suitable => _ : StateM σ (GuardSlot σ × Placement)).run s = _
  rw [StateT.run_bind, unsuitable]
  rfl

/-- **Guards only add refusals.** Let there be some guards in front of a policy, one in front of the
other. What is asked of them is granted if and only if it is neither to replace the guard nor to
reach members of which some are protected, and the policy grants it. It is refused with the error of
the guard for such a request, or with the one of the policy. The policy is asked once, and only if
the guard has nothing against the request. So several guards are like one.

A policy that grants all probes is put behind one guard, which is the same as several, and these are
suitable as the guard themselves. -/
theorem nested_adds_refusals (policy : Policy σ) {k : Nat} (some_guard : 1 ≤ k) :
    (∀ permission s,
      ((nested policy k).ask permission s).1 = .ok () ↔
        permission ≠ .replaceGuard ∧
          (∀ targets, permission = .suppressAccessChecks targets →
            ∀ m ∈ targets, m.isProtected = false) ∧
          (policy.ask permission s).1 = .ok ()) ∧
    (∀ permission s e,
      ((nested policy k).ask permission s).1 = .error e ↔
        permission.IsRefused e ∨
          ¬ permission.IsGuarded ∧ (policy.ask permission s).1 = .error e) ∧
    (∀ permission s record,
      (permission.IsGuarded →
        ((nested policy.recorded k).ask permission (s, record)).2 = (s, record)) ∧
      (¬ permission.IsGuarded →
        ((nested policy.recorded k).ask permission (s, record)).2 =
          ((policy.ask permission s).2, record ++ [permission]))) ∧
    nested policy k = (inFrontOf policy).policy ∧
    (∀ s t, policy.GrantsInTurn probes s t →
      (GuardSlot.empty.installOver policy).run s = ((⟨some (nested policy k)⟩, .wrapped), t)) ∧
    isSuitable (nested policy k) = pure true := by
  obtain ⟨k, rfl⟩ := Nat.exists_eq_add_of_le' some_guard
  refine ⟨fun permission s => ?_, fun permission s e => ask_nested_eq_error_iff,
    fun permission s record => ask_nested_recorded policy permission k s record,
    nested_succ policy k, fun s t granted => ?_, isSuitable_nested policy k⟩
  · rw [ask_nested_eq_ok_iff, Permission.not_isGuarded_iff, and_assoc]
  · rw [nested_succ, run_installOver_of_grantsInTurn granted]

/-- Two guards in front of a policy that grants all probes and refuses one more request, at a list
of members of which the first is open, the second protected, and the third protected too. -/
theorem nested_adds_refusals_two_guards :
    let policy : Policy Unit := .ofVerdicts fun permission =>
      if permission = .other "exit" then .error (.accessDenied "exit") else .ok ()
    let targets : List Member := [⟨Member.openOwner, "names"⟩, ⟨Member.licenseOwner, "features"⟩,
      ⟨Member.managerOwner, "cache"⟩]
    ((nested policy 2).ask (.suppressAccessChecks targets) ()).1 =
        .error (.accessDenied ("access to non-public member " ++
          "licensewarden::license::model::License::features prohibited")) ∧
      ((nested policy 2).ask (.other "exit") ()).1 = .error (.accessDenied "exit") ∧
      ((nested policy 2).ask (.suppressAccessChecks (targets.take 1)) ()).1 = .ok () ∧
      ((nested policy.recorded 2).ask .replaceGuard ((), [])).2 = ((), []) ∧
      ((nested policy.recorded 2).ask (.other "exit") ((), [])).2 = ((), [.other "exit"]) ∧
      (GuardSlot.empty.installOver policy).run () = ((⟨some (nested policy 2)⟩, .wrapped), ()) := by
  intro policy targets
  obtain ⟨granted, refused, recorded, -, installed, -⟩ :=
    nested_adds_refusals policy (k := 2) (by decide)
  refine ⟨(refused _ _ _).mpr (.inl ?_), (refused _ _ _).mpr (.inr ⟨?_, rfl⟩), (granted _ _).mpr ?_,
    (recorded _ _ _).1 trivial, (recorded _ _ _).2 ?_, installed () () ?_⟩
  · have first : ∀ other ∈ [(⟨Member.openOwner, "names"⟩ : Member)], other.isProtected = false := by
      decide
    exact .member (m := ⟨Member.licenseOwner, "features"⟩) (by decide) first
  · exact id
  · refine ⟨nofun, ?_, rfl⟩
    rintro _ ⟨⟩
    decide
  · exact id
  · exact ⟨(), rfl, (), rfl, (), rfl, rfl⟩

end LicenseGuard

end Licensing
