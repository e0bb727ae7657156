import Licensing.FrozenSet
import Mathlib.Data.List.Induction
import Mathlib.Data.List.Nodup
import Mathlib.Data.List.Perm.Subperm

/-!
# Sets that can be trusted

Reads of sets whose predicate always answers yes are those of the lists they are made of. A list
becomes a set by dropping each item that is equal to one before it; two sets are compared by their
numbers of elements and by looking for each element of the one in the other, which is enough since
no set has two equal elements.

## Main definitions

* `firsts` — the items of a list that are equal to none before them.
* `Distinct` — no item of a list is equal to a later one.
* `sameItems` — each item of either list is equal to one of the other.

## Main results

* `eraseDups_eq_firsts`, `distinct_eraseDups` — which items a set keeps, and that no two of them are
  equal.
* `sameItems_eq` — lists without equal items are compared as sets are.
* `FrozenSet.find?_ofDistinct`, `FrozenSet.contains_ofDistinct`, `FrozenSet.setEq_ofDistinct` —
  reads of sets.
* `FrozenSet.same_ofList` — two sets are the same if and only if their lists have the same items.
-/

namespace Licensing

variable {σ α β : Type}

/-- An iteration that can be trusted gives the first value there is. -/
theorem visitUntil_pure_true {visit : α → Action σ (Option β)} {value? : α → Option β}
    (h : ∀ item, visit item = pure (value? item)) (items : List α) :
    visitUntil (pure true) visit items = pure (items.findSome? value?) := by
  induction items with
  | nil => rfl
  | cons item items ih =>
    rw [visitUntil, h, ih, List.findSome?_cons]
    cases value? item <;> rfl

/-- All items of a list have a property if and only if none is found that lacks it. -/
theorem isNone_findSome?_unless (property : α → Bool) (items : List α) :
    (items.findSome? fun item => if property item then none else some ()).isNone =
      items.all property := by
  rw [Bool.eq_iff_iff, Option.isNone_iff_eq_none, List.findSome?_eq_none_iff, List.all_eq_true]
  simp

/-! ### The first of equal items -/

section Firsts

variable [BEq α]

/-- The items of a list that are equal to none before them, in order. -/
def firsts (items : List α) : List α :=
  (items.zipIdx.filter fun (item, place) => !(items.take place).any (· == item)).map (·.1)

/-- An item at the end of a list is one of them if it is equal to none before it, and changes
nothing for those. -/
theorem firsts_concat (items : List α) (last : α) :
    firsts (items ++ [last]) =
      firsts items ++ if items.any (· == last) then [] else [last] := by
  have before : items.zipIdx.filter
        (fun (item, place) => !((items ++ [last]).take place).any (· == item)) =
      items.zipIdx.filter fun (item, place) => !(items.take place).any (· == item) := by
    refine List.filter_congr fun ⟨item, place⟩ mem => ?_
    have inside : place < items.length := by
      simpa using (List.mem_zipIdx mem).2.1
    simp only [List.take_append_of_le_length (Nat.le_of_lt inside)]
  rw [firsts, List.zipIdx_append, List.filter_append, List.map_append, before, firsts]
  congr 1
  by_cases found : items.any (· == last)
  · simp [found]
  · simp [found]

/-- No item of a list is equal to a later one. -/
def Distinct (items : List α) : Prop :=
  items.Pairwise fun earlier later => (earlier == later) = false

/-- Induction along the keeping of first items: what holds of a list once the items that are equal
to an item are dropped from it holds of the list after that item. -/
@[elab_as_elim]
theorem induction_firsts {motive : List α → Prop} (nil : motive [])
    (cons : ∀ item items,
      motive (items.filter fun other => !other == item) → motive (item :: items))
    (items : List α) : motive items := by
  induction h : items.length using Nat.strongRecOn generalizing items with
  | _ n ih =>
    cases items with
    | nil => exact nil
    | cons item items =>
      subst h
      exact cons item items (ih _ (Nat.lt_succ_of_le (List.length_filter_le ..)) _ rfl)

/-- A list with the first of equal items kept has no other items. -/
theorem eraseDups_subset (items : List α) : items.eraseDups ⊆ items := by
  induction items using induction_firsts with
  | nil => exact List.Subset.refl _
  | cons item items ih =>
    rw [List.eraseDups_cons]
    exact List.cons_subset_cons _ (List.Subset.trans ih (List.filter_subset_self _))

variable [PartialEquivBEq α]

/-- A list with the first of equal items kept holds no two equal ones. -/
theorem distinct_eraseDups (items : List α) : Distinct items.eraseDups := by
  induction items using induction_firsts with
  | nil => exact .nil
  | cons item items ih =>
    rw [List.eraseDups_cons]
    refine List.pairwise_cons.mpr ⟨fun later mem => ?_, ih⟩
    obtain ⟨-, apart⟩ := List.mem_filter.mp (eraseDups_subset _ mem)
    rw [BEq.comm]
    simpa using apart

/-- Dropping the items that are equal to an item drops none that is equal to one that is not. -/
theorem any_filter_of_ne {item last : α} (apart : (last == item) = false) (items : List α) :
    (items.filter fun other => !other == item).any (· == last) = items.any (· == last) := by
  have kept {other : α} (equal : (other == last) = true) : (!other == item) = true := by
    by_contra dropped
    have same : (other == item) = true := by simpa using dropped
    have joined : (last == item) = true := BEq.trans (BEq.symm equal) same
    rw [apart] at joined
    cases joined
  rw [Bool.eq_iff_iff, List.any_eq_true, List.any_eq_true]
  constructor
  · rintro ⟨other, mem, equal⟩
    exact ⟨other, List.mem_of_mem_filter mem, equal⟩
  · rintro ⟨other, mem, equal⟩
    exact ⟨other, List.mem_filter.mpr ⟨mem, kept equal⟩, equal⟩

/-- An item at the end of a list is kept if it is equal to none before it. -/
theorem eraseDups_concat (items : List α) (last : α) :
    (items ++ [last]).eraseDups =
      items.eraseDups ++ if items.any (· == last) then [] else [last] := by
  induction items using induction_firsts with
  | nil => rfl
  | cons item items ih =>
    rw [List.cons_append, List.eraseDups_cons, List.eraseDups_cons, List.filter_append,
      List.any_cons]
    by_cases equal : (last == item) = true
    · simp [equal, BEq.symm equal]
    · rw [Bool.not_eq_true] at equal
      have equal' : (item == last) = false := by rwa [BEq.comm]
      rw [any_filter_of_ne equal] at ih
      simp [equal, equal', ih]

/-- The items that a list keeps are those that are equal to none before them. -/
theorem eraseDups_eq_firsts (items : List α) : items.eraseDups = firsts items := by
  induction items using List.reverseRecOn with
  | nil => rfl
  | append_singleton items last ih => rw [eraseDups_concat, firsts_concat, ih]

/-- Each item of a list is kept or equal to one that is. -/
theorem mem_eraseDups_or {items : List α} {item : α} (mem : item ∈ items) :
    item ∈ items.eraseDups ∨ items.eraseDups.any (· == item) := by
  induction items using induction_firsts with
  | nil => cases mem
  | cons first items ih =>
    rw [List.eraseDups_cons]
    rcases List.mem_cons.mp mem with rfl | mem
    · exact .inl List.mem_cons_self
    · by_cases equal : (item == first) = true
      · exact .inr (by simp [BEq.symm equal])
      · rcases ih (List.mem_filter.mpr ⟨mem, by simpa using equal⟩) with kept | found
        · exact .inl (.tail _ kept)
        · exact .inr (by simp [found])

/-- What is equal to an item of a list is equal to one that is kept. -/
theorem any_eraseDups (items : List α) (item : α) :
    items.eraseDups.any (· == item) = items.any (· == item) := by
  rw [Bool.eq_iff_iff]
  constructor
  · intro found
    obtain ⟨other, mem, equal⟩ := List.any_eq_true.mp found
    exact List.any_eq_true.mpr ⟨other, eraseDups_subset items mem, equal⟩
  · intro found
    obtain ⟨other, mem, equal⟩ := List.any_eq_true.mp found
    rcases mem_eraseDups_or mem with kept | same
    · exact List.any_eq_true.mpr ⟨other, kept, equal⟩
    · obtain ⟨first, kept, same⟩ := List.any_eq_true.mp same
      exact List.any_eq_true.mpr ⟨first, kept, BEq.trans same equal⟩

end Firsts

/-! ### Lists with the same items -/

section Lists

variable [BEq α]

/-- Each item of either list is equal to one of the other. -/
def sameItems (xs ys : List α) : Bool :=
  xs.all (fun x => ys.any (· == x)) && ys.all (fun y => xs.any (· == y))

variable [PartialEquivBEq α]

/-- Items of which no two are equal are matched by as many items of a list in which each of them is
found. -/
theorem exists_perm_append_of_found {xs ys : List α} (distinct : Distinct xs)
    (found : ∀ x ∈ xs, ys.any (· == x)) :
    ∃ matched others, ys.Perm (matched ++ others) ∧ matched.length = xs.length ∧
      ∀ y ∈ matched, xs.any (· == y) := by
  induction xs generalizing ys with
  | nil => exact ⟨[], ys, .refl _, rfl, by simp⟩
  | cons x xs ih =>
    obtain ⟨apart, distinct⟩ := List.pairwise_cons.mp distinct
    obtain ⟨y, mem, equal⟩ := List.any_eq_true.mp (found x List.mem_cons_self)
    obtain ⟨before, after, rfl⟩ := List.append_of_mem mem
    -- `y` matches no other item, so the others are found in what is left without it.
    have left : ∀ x' ∈ xs, (before ++ after).any (· == x') := by
      intro x' hx'
      obtain ⟨y', mem', equal'⟩ := List.any_eq_true.mp (found x' (.tail _ hx'))
      have other : y' ≠ y := by
        rintro rfl
        have same : (x == x') = true := BEq.trans (BEq.symm equal) equal'
        rw [apart x' hx'] at same
        cases same
      exact List.any_eq_true.mpr ⟨y', by simpa [other] using mem', equal'⟩
    obtain ⟨matched, others, perm, length, back⟩ := ih distinct left
    refine ⟨y :: matched, others, List.perm_middle.trans (perm.cons y), by simp [length], ?_⟩
    refine List.forall_mem_cons.mpr ⟨?_, fun y' hy' => ?_⟩
    · simp [BEq.symm equal]
    · simp [back y' hy']

/-- Two lists without equal items have the same items if and only if they are of one length and each
item of the one is found in the other. -/
theorem sameItems_eq {xs ys : List α} (hx : Distinct xs) (hy : Distinct ys) :
    sameItems xs ys = (decide (xs.length = ys.length) && xs.all fun x => ys.any (· == x)) := by
  rw [Bool.eq_iff_iff, sameItems, Bool.and_eq_true, Bool.and_eq_true, decide_eq_true_eq,
    List.all_eq_true, List.all_eq_true, and_comm (a := xs.length = ys.length), and_congr_right_iff]
  intro found
  obtain ⟨matched, others, perm, length, back⟩ := exists_perm_append_of_found hx found
  have total := perm.length_eq
  rw [List.length_append] at total
  constructor
  · intro found'
    obtain ⟨matched', others', perm', length', -⟩ := exists_perm_append_of_found hy found'
    have total' := perm'.length_eq
    rw [List.length_append] at total'
    omega
  · intro equal
    have none : others = [] := List.length_eq_zero_iff.mp (by omega)
    rw [none, List.append_nil] at perm
    exact fun y mem => back y (perm.mem_iff.mp mem)

/-- Each item that is kept of a list is found in another list if and only if each item of the list
is. -/
theorem all_any_eraseDups (xs ys : List α) :
    xs.eraseDups.all (fun x => ys.any (· == x)) = xs.all fun x => ys.any (· == x) := by
  rw [Bool.eq_iff_iff, List.all_eq_true, List.all_eq_true]
  constructor
  · intro found x mem
    rcases mem_eraseDups_or mem with kept | same
    · exact found x kept
    · obtain ⟨first, kept, same⟩ := List.any_eq_true.mp same
      obtain ⟨y, mem', equal⟩ := List.any_eq_true.mp (found first kept)
      exact List.any_eq_true.mpr ⟨y, mem', BEq.trans equal same⟩
  · exact fun found x kept => found x (eraseDups_subset xs kept)

/-- Lists have the same items if and only if the items that they keep are the same. -/
theorem sameItems_eraseDups (xs ys : List α) :
    sameItems xs.eraseDups ys.eraseDups = sameItems xs ys := by
  simp only [sameItems, any_eraseDups, all_any_eraseDups]

omit [PartialEquivBEq α] in
/-- Where equal items are the same, lists with the same items are lists with the same members. -/
theorem sameItems_iff [LawfulBEq α] {xs ys : List α} :
    sameItems xs ys = true ↔ ∀ x, x ∈ xs ↔ x ∈ ys := by
  simp only [sameItems, Bool.and_eq_true, List.all_eq_true, List.any_beq', List.contains_iff_mem]
  exact ⟨fun ⟨sub, sup⟩ x => ⟨sub x, sup x⟩,
    fun members => ⟨fun x => (members x).mp, fun x => (members x).mpr⟩⟩

end Lists

/-! ### Reads -/

namespace FrozenSet

theorem find?_ofDistinct (items : List α) (property : α → Bool) :
    (ofDistinct items : FrozenSet σ α).find? property = pure (items.find? property) := by
  rw [List.find?_eq_findSome?_guard]
  exact visitUntil_pure_true (fun _ => rfl) _

variable [BEq α]

theorem contains_ofDistinct (items : List α) (item : α) :
    (ofDistinct items : FrozenSet σ α).contains item = pure (items.any (· == item)) := by
  rw [contains, find?_ofDistinct, ← List.isSome_find?]
  rfl

/-- Two sets are compared by their numbers of elements first, and then by looking for each element
of the one in the other. -/
theorem setEq_ofDistinct (xs ys : List α) :
    (ofDistinct xs : FrozenSet σ α).setEq (ofDistinct ys) =
      pure (decide (xs.length = ys.length) && xs.all fun x => ys.any (· == x)) := by
  have visits : visitUntil (pure true) (fun x => do
      return if ← (ofDistinct ys : FrozenSet σ α).contains x then none else some ()) xs =
        pure (xs.findSome? fun x => if ys.any (· == x) then none else some ()) := by
    refine visitUntil_pure_true (fun x => ?_) _
    rw [contains_ofDistinct]
    rfl
  have len (items : List α) : (ofDistinct items : FrozenSet σ α).len = pure items.length := rfl
  rw [setEq, len, len, pure_bind, pure_bind]
  by_cases equal : xs.length = ys.length
  · rw [if_neg (not_not_intro equal), decide_eq_true equal, Bool.true_and,
      ← isNone_findSome?_unless]
    exact congrArg (· >>= fun found => pure found.isNone) visits
  · rw [if_pos equal, decide_eq_false equal, Bool.false_and]

theorem same_ofDistinct (xs ys : List α) :
    (ofDistinct xs : FrozenSet σ α).same (ofDistinct ys) =
      pure (decide (xs.length = ys.length) && xs.all fun x => ys.any (· == x)) := by
  rw [FrozenSet.same, setEq_ofDistinct]
  rfl

theorem ofList_eq (items : List α) :
    (ofList items : FrozenSet σ α) = ofDistinct items.eraseDups :=
  rfl

variable [PartialEquivBEq α]

/-- The elements of a set are the items of its list that are equal to none before them. -/
theorem toList_ofList (items : List α) :
    (ofList items : FrozenSet σ α).toList = pure (firsts items) := by
  rw [ofList_eq, eraseDups_eq_firsts]
  rfl

/-- Two sets are the same if and only if their lists have the same items. -/
theorem same_ofList (xs ys : List α) :
    (ofList xs : FrozenSet σ α).same (ofList ys) = pure (sameItems xs ys) := by
  rw [ofList_eq, ofList_eq, same_ofDistinct,
    ← sameItems_eq (distinct_eraseDups xs) (distinct_eraseDups ys), sameItems_eraseDups]

end FrozenSet

end Licensing
