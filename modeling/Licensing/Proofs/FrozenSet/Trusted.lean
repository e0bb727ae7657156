import Licensing.Proofs.FrozenSet.Asking

/-!
# Sets that can be trusted for a while

A predicate may answer yes in some states only, and move between them. As long as it starts in one
of them, the sets that it watches can be trusted, and reading them gives what reading their lists
gives.

## Main definitions

* `Trusted` — a predicate answers yes wherever a property holds, and keeps the property.
* `Gives` — a computation has a value wherever a property holds, and keeps the property.
* `onFirst`, `onSecond` — a predicate that has a part of the state for itself.

## Main results

* `Gives.bind`, `Trusted.ensure`, `Trusted.visitUntil` — what computations that have a value are put
  together from.
* `FrozenSet.Read.gives` — every read of sets that can be trusted.
-/

namespace Licensing

variable {σ τ α β γ : Type}

/-- A predicate answers yes wherever a property holds, and keeps the property. -/
def Trusted (p : σ → Prop) (alive : StateM σ Bool) : Prop :=
  ∀ s, p s → (alive.run s).1 = true ∧ p (alive.run s).2

/-- A computation has a value wherever a property holds, and keeps the property. -/
def Gives (p : σ → Prop) (x : Action σ β) (value : β) : Prop :=
  ∀ s, p s → (x.run.run s).1 = .ok value ∧ p (x.run.run s).2

section Gives

variable {p : σ → Prop} {alive : StateM σ Bool}

theorem Gives.pure (value : β) : Gives p (pure value : Action σ β) value :=
  fun _ hs => ⟨rfl, hs⟩

theorem Gives.bind {x : Action σ β} {f : β → Action σ γ} {b : β} {c : γ} (first : Gives p x b)
    (second : Gives p (f b) c) : Gives p (x >>= f) c := by
  intro s hs
  obtain ⟨result, kept⟩ := first s hs
  have ran : x.run.run s = (.ok b, (x.run.run s).2) := Prod.ext result rfl
  rw [run_bind_of_ok ran]
  exact second _ kept

theorem Trusted.ensure (trusted : Trusted p alive) : Gives p (ensure alive) () := by
  intro s hs
  obtain ⟨yes, kept⟩ := trusted s hs
  rw [Cursor.run_ensure, yes]
  exact ⟨rfl, kept⟩

/-- An iteration that can be trusted gives the first value there is. -/
theorem Trusted.visitUntil (trusted : Trusted p alive) {visit : α → Action σ (Option β)}
    {value? : α → Option β} (h : ∀ item, Gives p (visit item) (value? item)) (items : List α) :
    Gives p (visitUntil alive visit items) (items.findSome? value?) := by
  induction items with
  | nil => exact trusted.ensure.bind (.pure none)
  | cons item items ih =>
    refine trusted.ensure.bind (trusted.ensure.bind ((h item).bind ?_))
    rw [List.findSome?_cons]
    cases value? item with
    | none => exact ih
    | some value => exact .pure (some value)

end Gives

namespace FrozenSet

variable {p : σ → Prop} {s t : FrozenSet σ α}

theorem gives_len (hs : Trusted p s.alive) : Gives p s.len s.items.length :=
  hs.ensure.bind (.pure _)

theorem gives_toList (hs : Trusted p s.alive) : Gives p s.toList s.items :=
  hs.ensure.bind (.pure _)

theorem gives_find? (hs : Trusted p s.alive) (property : α → Bool) :
    Gives p (s.find? property) (s.items.find? property) := by
  rw [find?, iter_bind, List.find?_eq_findSome?_guard]
  exact hs.ensure.bind (hs.visitUntil (fun _ => .pure _) s.items)

variable [BEq α]

theorem gives_contains (hs : Trusted p s.alive) (item : α) :
    Gives p (s.contains item) (s.items.any (· == item)) := by
  rw [← List.isSome_find?]
  exact (gives_find? hs (· == item)).bind (.pure _)

theorem gives_setEq (hs : Trusted p s.alive) (ht : Trusted p t.alive) :
    Gives p (s.setEq t) (Read.setEq.ofLists s.items t.items) := by
  have visit (item : α) : Gives p (do return if ← t.contains item then none else some ())
      (if t.items.any (· == item) then none else some ()) :=
    (gives_contains ht item).bind (.pure _)
  rw [setEq, Read.ofLists]
  refine (gives_len hs).bind ((gives_len ht).bind ?_)
  by_cases equal : s.items.length = t.items.length
  · rw [if_neg (not_not_intro equal), decide_eq_true equal, Bool.true_and,
      ← isNone_findSome?_unless, iter_bind]
    exact hs.ensure.bind ((hs.visitUntil visit s.items).bind (.pure _))
  · rw [if_pos equal, decide_eq_false equal, Bool.false_and]
    exact .pure false

/-- Reads of sets that can be trusted are those of their lists. -/
theorem Read.gives (hs : Trusted p s.alive) (ht : Trusted p t.alive) (read : Read α β) :
    Gives p (read.perform s t) (read.ofLists s.items t.items) := by
  cases read with
  | len => exact gives_len hs
  | isEmpty =>
    have empty : s.items.isEmpty = (s.items.length == 0) := by cases s.items <;> rfl
    rw [Read.ofLists, empty]
    exact (gives_len hs).bind (.pure _)
  | iter =>
    rw [perform, iter_bind]
    exact hs.ensure.bind (.pure _)
  | find? property => exact gives_find? hs property
  | contains item => exact gives_contains hs item
  | toList => exact gives_toList hs
  | setEq => exact gives_setEq hs ht

end FrozenSet

/-! ### Parts of a state -/

/-- A predicate on the first part of a state. -/
def onFirst (alive : StateM σ Bool) : StateM (σ × τ) Bool := fun (s, t) =>
  let (answer, after) := alive.run s
  (answer, (after, t))

/-- A predicate on the second part of a state. -/
def onSecond (alive : StateM τ Bool) : StateM (σ × τ) Bool := fun (s, t) =>
  let (answer, after) := alive.run t
  (answer, (s, after))

theorem Trusted.onFirst {p : σ → Prop} {alive : StateM σ Bool} (trusted : Trusted p alive)
    (q : τ → Prop) : Trusted (fun x : σ × τ => p x.1 ∧ q x.2) (onFirst alive) :=
  fun x hx => ⟨(trusted x.1 hx.1).1, (trusted x.1 hx.1).2, hx.2⟩

theorem Trusted.onSecond {q : τ → Prop} {alive : StateM τ Bool} (trusted : Trusted q alive)
    (p : σ → Prop) : Trusted (fun x : σ × τ => p x.1 ∧ q x.2) (onSecond alive) :=
  fun x hx => ⟨(trusted x.2 hx.2).1, hx.1, (trusted x.2 hx.2).2⟩

end Licensing
