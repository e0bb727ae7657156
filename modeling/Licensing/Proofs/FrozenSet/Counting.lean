import Licensing.Proofs.FrozenSet.FailClosed
import Mathlib.Algebra.BigOperators.Intervals
import Mathlib.Algebra.BigOperators.Ring.List
import Mathlib.Tactic.Ring

/-!
# How often reads ask

As long as the answers are yes, a read asks all of its order. A search asks twice for each element
up to the one that it finds. The comparison of two sets searches the one for each element of the
other, and so finds all places, each one once, in whatever orders the sets hold their elements. How
often each predicate is asked depends on the numbers of elements only, and no read does without.

## Main definitions

* `findCount` — how often a search asks.
* `FrozenSet.Read.asked` — who is asked during a read.
* `FrozenSet.walk`, `FrozenSet.walkEvaluations` — an iteration from start to end, and what the
  predicate answers during it.
* `FrozenSet.timesAsked` — how often each predicate is asked while two sets are compared.

## Main results

* `Asks.log_eq` — what does not fail asks all of its order.
* `findOrder_eq_replicate`, `FrozenSet.Read.sum_order_setEq` — how often a search and a comparison
  ask.
* `sum_findIdx_mul_two` — the places at which the elements of a set are found in a set of the same
  elements.
* `Cursor.run_take_recorded` — how often an iteration asks.
* `FrozenSet.reads_ask_exactly` — how often reads ask.
-/

namespace Licensing

variable {ι ν σ α β : Type}

/-! ### All of an order -/

/-- What does not fail asks all of its order. -/
theorem Asks.log_eq {plain : Action σ β} {noted : Action (σ × List ν) β} {value result : β}
    {order : List (Bool → ν)} (h : Asks plain noted value order) {s : σ}
    (succeeds : (plain.run.run s).1 = .ok result) (log : List ν) :
    (noted.run.run (s, log)).2.2 = log ++ order.map (· true) := by
  obtain ⟨notes, run, ends⟩ := h s log
  rw [succeeds] at ends
  rw [run]
  cases ends with
  | trusted => rfl

/-! ### Searches -/

/-- How often a search asks: once for the iteration, and twice for each item up to the one that is
found, or for all of them and once more at the end. -/
def findCount (property : α → Bool) (items : List α) : Nat :=
  match items.findIdx? property with
  | some place => 2 * place + 3
  | none => 2 * items.length + 2

theorem findCount_of_some {property : α → Bool} {items : List α} {place : Nat}
    (found : items.findIdx? property = some place) : findCount property items = 2 * place + 3 := by
  rw [findCount, found]

theorem findCount_of_none {property : α → Bool} {items : List α}
    (none : items.findIdx? property = none) :
    findCount property items = 2 * items.length + 2 := by
  rw [findCount, none]

theorem findCount_cons (property : α → Bool) (item : α) (items : List α) :
    findCount property (item :: items) =
      if property item then 3 else findCount property items + 2 := by
  cases h : property item with
  | true => simp [findCount, List.findIdx?_cons, h]
  | false =>
    simp only [findCount, List.findIdx?_cons, h, List.length_cons]
    cases items.findIdx? property with
    | some place => simp; omega
    | none => simp; omega

/-- A search asks the one predicate again and again. -/
theorem findOrder_eq_replicate (who : ι) (property : α → Bool) (items : List α) :
    findOrder who property items = List.replicate (findCount property items) who := by
  induction items with
  | nil => rfl
  | cons item items ih =>
    rw [findCount_cons, findOrder, visitOrder]
    cases property item with
    | true => rfl
    | false => exact congrArg (who :: who :: ·) ih

/-! ### Comparisons -/

/-- How often an iteration asks that no visit stops, by how often its visits do. -/
theorem sum_visitOrder {who : Nat} {stops : α → Bool} {order : α → List Nat} {items : List α}
    (none : ∀ item ∈ items, stops item = false) :
    (visitOrder who stops order items).sum =
      (2 * items.length + 1) * who + (items.map fun item => (order item).sum).sum := by
  induction items with
  | nil => simp [visitOrder]
  | cons item items ih =>
    obtain ⟨on, none⟩ := List.forall_mem_cons.mp none
    simp only [visitOrder, on, List.sum_cons, List.sum_append, List.map_cons, List.length_cons,
      Bool.false_eq_true, if_false, ih none]
    ring

section Places

variable [BEq α] {xs ys : List α}

theorem findIdx_lt_of_found {x : α} (found : ys.any (· == x) = true) :
    ys.findIdx (· == x) < ys.length :=
  List.findIdx_lt_length.mpr (List.any_eq_true.mp found)

/-- How often a search asks that finds its item. -/
theorem findCount_of_found {x : α} (found : ys.any (· == x) = true) :
    findCount (· == x) ys = ys.findIdx (· == x) * 2 + 3 := by
  rw [findCount_of_some (List.findIdx?_eq_some_of_exists (List.any_eq_true.mp found)), Nat.mul_comm]

variable [PartialEquivBEq α]

/-- In a list with the same items, each item is found. -/
theorem found_of_sameItems (hx : Distinct xs) (hy : Distinct ys)
    (same : sameItems xs ys = true) :
    xs.length = ys.length ∧ ∀ x ∈ xs, ys.any (· == x) = true := by
  rw [sameItems_eq hx hy, Bool.and_eq_true, decide_eq_true_eq, List.all_eq_true] at same
  exact same

/-- No two items of a list without equal items are found at one place. -/
theorem nodup_findIdx (distinct : Distinct xs) (found : ∀ x ∈ xs, ys.any (· == x) = true) :
    (xs.map fun x => ys.findIdx (· == x)).Nodup := by
  refine List.pairwise_map.mpr (distinct.imp_of_mem fun {x x'} mem mem' apart place => ?_)
  have equal := List.findIdx_getElem (w := findIdx_lt_of_found (found x mem))
  have equal' := List.findIdx_getElem (w := findIdx_lt_of_found (found x' mem'))
  simp only [← place] at equal'
  have same : (x == x') = true := BEq.trans (BEq.symm equal) equal'
  rw [apart] at same
  cases same

/-- Items of which no two are equal are found in as many items at all places, each one once. -/
theorem sum_findIdx_mul_two (distinct : Distinct xs) (found : ∀ x ∈ xs, ys.any (· == x) = true)
    (equal : xs.length = ys.length) :
    (xs.map fun x => ys.findIdx (· == x)).sum * 2 = xs.length * (xs.length - 1) := by
  have nodup := nodup_findIdx distinct found
  have inside : (xs.map fun x => ys.findIdx (· == x)).toFinset ⊆ Finset.range xs.length := by
    intro place mem
    obtain ⟨x, own, rfl⟩ := List.mem_map.mp (List.mem_toFinset.mp mem)
    rw [Finset.mem_range, equal]
    exact findIdx_lt_of_found (found x own)
  -- as many different places as there are, none of them outside
  have all : (xs.map fun x => ys.findIdx (· == x)).toFinset = Finset.range xs.length := by
    refine Finset.eq_of_subset_of_card_le inside ?_
    rw [Finset.card_range, List.toFinset_card_of_nodup nodup, List.length_map]
  have sum := List.sum_toFinset id nodup
  rw [all, List.map_id] at sum
  rw [← sum]
  exact Finset.sum_range_id_mul_two xs.length

/-- How often the searches of a comparison ask. -/
theorem sum_findCount (distinct : Distinct xs) (found : ∀ x ∈ xs, ys.any (· == x) = true)
    (equal : xs.length = ys.length) :
    (xs.map fun x => findCount (· == x) ys).sum + 1 = (xs.length + 1) ^ 2 := by
  have counts : (xs.map fun x => findCount (· == x) ys) =
      xs.map fun x => ys.findIdx (· == x) * 2 + 3 :=
    List.map_congr_left fun x mem => findCount_of_found (found x mem)
  rw [counts, List.sum_map_add, List.sum_map_mul_right, sum_findIdx_mul_two distinct found equal,
    List.map_const', List.sum_replicate_nat]
  cases xs.length with
  | zero => rfl
  | succ n =>
    rw [Nat.add_sub_cancel]
    ring

end Places

/-! ### Iterations -/

namespace Cursor

/-- What the first of some calls gives, and the others after it, unless it gives nothing. -/
theorem run_take_succ (c : Cursor σ α) (steps : Nat) (s : σ) :
    (c.take (steps + 1)).run s =
      match (c.next.run s).1.1 with
      | none => (([], (c.next.run s).1.2), (c.next.run s).2)
      | some result =>
        let others := ((c.next.run s).1.2.take steps).run (c.next.run s).2
        ((result :: others.1.1, others.1.2), others.2) := by
  rw [take, StateT.run_bind]
  rcases c.next.run s with ⟨⟨_ | result, after⟩, s'⟩ <;> rfl

/-- An iteration puts what the predicate answers at the end of a record, which changes nothing. If
no answer is no and there are calls enough, it gives all elements, and asks twice for each of them
and once at the end. -/
theorem run_take_recorded (c : Cursor σ α) (steps : Nat) (s : σ) (record : List Bool) :
    ∃ answers,
      (c.recorded.take steps).run (s, record) =
        ((((c.take steps).run s).1.1, ((c.take steps).run s).1.2.recorded),
          (((c.take steps).run s).2, record ++ answers)) ∧
      (c.tripped = false → c.rest.length < steps → false ∉ answers →
        answers.length = 2 * c.rest.length + 1 ∧
          ((c.take steps).run s).1.1 = c.rest.map .ok) := by
  -- by induction on the calls: after a late refusal, the same elements are left
  induction steps generalizing c s record with
  | zero => exact ⟨[], by rw [List.append_nil]; rfl, fun _ few => absurd few (Nat.not_lt_zero _)⟩
  | succ steps ih =>
    rw [run_take_succ, run_take_succ, run_next_recorded]
    dsimp only
    have step := c.next_cases s
    generalize (c.next.run s).1.1 = result, (c.next.run s).1.2 = after, (c.next.run s).2 = s'
      at step ⊢
    cases step with
    | ended tripped =>
      refine ⟨[], by simp [tripped], fun going => ?_⟩
      rw [tripped] at going
      cases going
    | refused going no =>
      obtain ⟨others, run, -⟩ := ih { c with tripped := true } (c.alive.run s).2 (record ++ [false])
      simp only [going, no, Bool.false_eq_true, if_false, if_true, run]
      exact ⟨false :: others, by simp, fun _ _ yes => absurd List.mem_cons_self yes⟩
    | atEnd going found empty =>
      refine ⟨[true], by simp [going, found, empty], fun _ _ _ => ?_⟩
      rw [empty]
      exact ⟨rfl, rfl⟩
    | refusedLate late =>
      obtain ⟨others, run, -⟩ := ih c (c.alive.run (c.alive.run s).2).2 (record ++ [true, false])
      simp only [late.going, late.found, late.left, late.refused, Bool.false_eq_true,
        Bool.true_eq_false, if_false, run]
      exact ⟨true :: false :: others, by simp, fun _ _ yes => absurd (by simp) yes⟩
    | @item item rest going found left taken =>
      obtain ⟨items, alive, tripped⟩ := c
      obtain rfl : items = item :: rest := left
      obtain rfl : tripped = false := going
      obtain ⟨others, run, gives⟩ :=
        ih ⟨rest, alive, false⟩ (alive.run (alive.run s).2).2 (record ++ [true, true])
      simp only [found, taken, Bool.false_eq_true, Bool.true_eq_false, reduceCtorEq, if_false, run]
      refine ⟨true :: true :: others, by simp, fun _ enough yes => ?_⟩
      obtain ⟨count, all⟩ := gives rfl (Nat.lt_of_succ_lt_succ enough) (by simpa using yes)
      rw [List.length_cons, List.length_cons, count, all]
      exact ⟨rfl, rfl⟩

end Cursor

/-! ### Reads -/

namespace FrozenSet

namespace Read

variable [BEq α]

/-- Who is asked during a read of two sets that begins in a state, one after the other. -/
def asked (left right : ι) (read : Read α β) (s t : FrozenSet σ α) (x : σ) : List ι :=
  ((read.perform (s.logged fun _ => left) (t.logged fun _ => right)).run.run (x, [])).2.2

variable {s t : FrozenSet σ α} {x : σ} {read : Read α β}

/-- A read that is trusted asks all of its order. -/
theorem asked_eq (left right : ι) (yes : false ∉ read.evaluations s t x) :
    read.asked left right s t x = read.order left right s.items t.items := by
  have gives := (read.evaluations_spec s t x).2.spec.2.2 yes
  rw [asked, (read.asks s t _ _).log_eq gives, List.nil_append, map_order]

/-- How often a read that is trusted asks. -/
theorem length_evaluations (yes : false ∉ read.evaluations s t x) :
    (read.evaluations s t x).length = (read.order () () s.items t.items).length := by
  have gives := (read.evaluations_spec s t x).2.spec.2.2 yes
  have made : read.evaluations s t x = [] ++ (read.order id id s.items t.items).map (· true) :=
    (read.asks s t id id).log_eq gives []
  rw [made, List.nil_append, List.length_map, ← read.map_order (fun _ : Unit => id) () (),
    List.length_map]

/-- How often a read that is trusted asks if its order is that of a search. -/
theorem length_evaluations_of_search {property : α → Bool}
    (search : read.order () () s.items t.items = findOrder () property s.items) :
    let count := (read.evaluations s t x).length
    false ∉ read.evaluations s t x →
      (∀ place, s.items.findIdx? property = some place → count = 2 * place + 3) ∧
      (s.items.findIdx? property = none → count = 2 * s.items.length + 2) := by
  intro count yes
  have asked : count = findCount property s.items := by
    change (read.evaluations s t x).length = _
    rw [length_evaluations yes, search, findOrder_eq_replicate, List.length_replicate]
  exact ⟨fun place found => asked.trans (findCount_of_some found),
    fun none => asked.trans (findCount_of_none none)⟩

/-- How often a read asks, if whoever is asked has the weight one. -/
theorem length_order (left right : ι) (xs ys : List α) (read : Read α β) :
    (read.order left right xs ys).length = (read.order 1 1 xs ys).sum := by
  rw [← read.map_order (fun _ => 1) left right, List.map_const', List.sum_replicate_nat,
    Nat.mul_one]

/-- How often a comparison asks, if each of the two predicates is given a weight. -/
theorem sum_order_setEq [PartialEquivBEq α] {xs ys : List α} (left right : Nat)
    (distinct : Distinct xs) (found : ∀ x ∈ xs, ys.any (· == x) = true)
    (equal : xs.length = ys.length) :
    (Read.setEq.order left right xs ys).sum =
      (2 * xs.length + 3) * left + (xs.length + 1) ^ 2 * right := by
  have goes : ∀ x ∈ xs, (!ys.any (· == x)) = false := fun x mem => by rw [found x mem]; rfl
  have searches : (xs.map fun x => (findOrder right (· == x) ys).sum).sum =
      (xs.map fun x => findCount (· == x) ys).sum * right := by
    simp only [findOrder_eq_replicate, List.sum_replicate_nat, List.sum_map_mul_right]
  rw [order_setEq_of_eq equal, List.sum_cons, List.sum_cons, List.sum_cons, sum_visitOrder goes,
    searches, ← sum_findCount distinct found equal]
  ring

end Read

/-- What an iteration over a set gives in up to some calls, up to the end. -/
def walk (s : FrozenSet σ α) (calls : Nat) : Action σ (List (Except Error α)) := do
  let c ← s.iter
  let (results, _) ← (c.take calls : StateM σ _)
  return results

/-- What the predicate answers during an iteration that begins in a state. -/
def walkEvaluations (s : FrozenSet σ α) (calls : Nat) (x : σ) : List Bool :=
  ((s.recorded.walk calls).run.run (x, [])).2.2

theorem run_walk (s : FrozenSet σ α) (calls : Nat) (x : σ) :
    (s.walk calls).run.run x =
      if (s.alive.run x).1 then
        let given := ((⟨s.items, s.alive, false⟩ : Cursor σ α).take calls).run (s.alive.run x).2
        (.ok given.1.1, given.2)
      else (.error .tamperDetected, (s.alive.run x).2) := by
  rw [walk, iter_bind]
  rcases h : s.alive.run x with ⟨_ | _, x'⟩
  · exact run_bind_of_error (by rw [Cursor.run_ensure, h]; rfl)
  · exact run_bind_of_ok (by rw [Cursor.run_ensure, h]; rfl)

/-- An iteration that is trusted, with calls enough, gives all elements, and asks twice for each of
them and once more at either end. -/
theorem length_walkEvaluations {s : FrozenSet σ α} {calls : Nat} {x : σ}
    (enough : s.items.length < calls) (yes : false ∉ s.walkEvaluations calls x) :
    (s.walkEvaluations calls x).length = 2 * s.items.length + 2 ∧
      ((s.walk calls).run.run x).1 = .ok (s.items.map .ok) := by
  have evaluations : s.walkEvaluations calls x =
      if (s.alive.run x).1 then
        ((Cursor.recorded ⟨s.items, s.alive, false⟩).take calls).run
          ((s.alive.run x).2, [true]) |>.2.2
      else [false] := by
    rw [walkEvaluations, run_walk, recorded, run_recorded]
    cases (s.alive.run x).1 <;> rfl
  obtain ⟨answers, run, gives⟩ :=
    Cursor.run_take_recorded ⟨s.items, s.alive, false⟩ calls (s.alive.run x).2 [true]
  rw [run_walk]
  cases first : (s.alive.run x).1 with
  | false =>
    rw [evaluations, first] at yes
    exact absurd List.mem_cons_self yes
  | true =>
    rw [first, if_pos rfl, run] at evaluations
    rw [evaluations] at yes ⊢
    obtain ⟨count, all⟩ := gives rfl enough fun no => yes (List.mem_append_right _ no)
    rw [if_pos rfl, List.length_append, count]
    exact ⟨Nat.add_comm _ _, congrArg Except.ok all⟩

/-! ### Two predicates -/

/-- The two sets of a comparison. -/
inductive Side where
  | left
  | right
  deriving DecidableEq, Repr

/-- How often a side is asked in an order, if it has the weight one and the other one none. -/
theorem count_eq_sum (side : Side) (order : List Side) :
    order.count side = (order.map fun other => if other = side then 1 else 0).sum := by
  induction order with
  | nil => rfl
  | cons other order ih =>
    rw [List.count_cons, List.map_cons, List.sum_cons, ih, Nat.add_comm]
    simp only [beq_iff_eq]

variable [BEq α]

/-- How often the predicate of a set is asked while two sets are compared. -/
def timesAsked (side : Side) (s t : FrozenSet σ α) (x : σ) : Nat :=
  (Read.setEq.asked Side.left Side.right s t x).count side

theorem timesAsked_eq {s t : FrozenSet σ α} {x : σ}
    (yes : false ∉ Read.setEq.evaluations s t x) (side : Side) :
    timesAsked side s t x =
      (Read.setEq.order (if Side.left = side then 1 else 0) (if Side.right = side then 1 else 0)
        s.items t.items).sum := by
  rw [timesAsked, Read.asked_eq _ _ yes, count_eq_sum, Read.map_order]

variable [PartialEquivBEq α]

/-- **How often reads ask.** As long as all answers are yes, whatever else the predicates do: a
search asks `2 * place + 3` times if the first match is at this place, and `2 * n + 2` times in a
set of `n` elements without a match. An iteration from start to end asks `2 * n + 2` times and gives
all elements. While two sets of the same `n` elements are compared, in whatever orders they hold
them, the one on the left is asked `2 * n + 3` times and the other one `(n + 1) ^ 2` times, so that
a set asks `(n + 2) ^ 2` times while it is compared with itself; of sets of different sizes, each is
asked once. -/
theorem reads_ask_exactly (s t : FrozenSet σ α) (x : σ) :
    (∀ property : α → Bool,
      let count := ((Read.find? property).evaluations s t x).length
      false ∉ (Read.find? property).evaluations s t x →
        (∀ place, s.items.findIdx? property = some place → count = 2 * place + 3) ∧
        (s.items.findIdx? property = none → count = 2 * s.items.length + 2)) ∧
    (∀ item : α,
      let count := ((Read.contains item).evaluations s t x).length
      false ∉ (Read.contains item).evaluations s t x →
        (∀ place, s.items.findIdx? (· == item) = some place → count = 2 * place + 3) ∧
        (s.items.findIdx? (· == item) = none → count = 2 * s.items.length + 2)) ∧
    (∀ calls, s.items.length < calls → false ∉ s.walkEvaluations calls x →
      (s.walkEvaluations calls x).length = 2 * s.items.length + 2 ∧
        ((s.walk calls).run.run x).1 = .ok (s.items.map .ok)) ∧
    (Distinct s.items → Distinct t.items → sameItems s.items t.items = true →
      false ∉ Read.setEq.evaluations s t x →
        timesAsked .left s t x = 2 * s.items.length + 3 ∧
          timesAsked .right s t x = (s.items.length + 1) ^ 2) ∧
    (Distinct s.items → (∀ item ∈ s.items, (item == item) = true) →
      false ∉ Read.setEq.evaluations s s x →
        (Read.setEq.evaluations s s x).length = (s.items.length + 2) ^ 2) ∧
    (s.items.length ≠ t.items.length → false ∉ Read.setEq.evaluations s t x →
      timesAsked .left s t x = 1 ∧ timesAsked .right s t x = 1) := by
  refine ⟨fun property => Read.length_evaluations_of_search rfl,
    fun item => Read.length_evaluations_of_search rfl, fun calls => length_walkEvaluations,
    ?_, ?_, ?_⟩
  · intro hs ht same yes
    obtain ⟨equal, found⟩ := found_of_sameItems hs ht same
    rw [timesAsked_eq yes, timesAsked_eq yes, Read.sum_order_setEq _ _ hs found equal,
      Read.sum_order_setEq _ _ hs found equal]
    simp
  · intro hs own yes
    have found : ∀ item ∈ s.items, s.items.any (· == item) = true := fun item mem =>
      List.any_eq_true.mpr ⟨item, mem, own item mem⟩
    rw [Read.length_evaluations yes, Read.length_order, Read.sum_order_setEq 1 1 hs found rfl]
    ring
  · intro differ yes
    rw [timesAsked_eq yes, timesAsked_eq yes, Read.order_setEq_of_ne differ,
      Read.order_setEq_of_ne differ]
    exact ⟨rfl, rfl⟩

/-- Two sets of the same two elements, whose predicates say yes sixteen times and then no, which is
as often as they are asked while the sets are compared. -/
theorem reads_ask_exactly_two :
    let s : FrozenSet (List Bool) String := .guarded ["a", "b", "a"] Cursor.inTurn
    let t : FrozenSet (List Bool) String := .guarded ["b", "a"] Cursor.inTurn
    let one : FrozenSet (List Bool) String := .guarded ["a"] Cursor.inTurn
    let answers := List.replicate 16 true ++ [false]
    ((Read.find? (· == "b")).evaluations s t answers).length = 5 ∧
      ((Read.contains "c").evaluations s t answers).length = 6 ∧
      (s.walkEvaluations 3 answers).length = 6 ∧
      timesAsked .left s t answers = 7 ∧ timesAsked .right s t answers = 9 ∧
      (Read.setEq.evaluations s s answers).length = 16 ∧
      timesAsked .left s one answers = 1 ∧ timesAsked .right s one answers = 1 := by
  intro s t one answers
  have hs : Distinct s.items := distinct_guarded ["a", "b", "a"] Cursor.inTurn
  have ht : Distinct t.items := distinct_guarded ["b", "a"] Cursor.inTurn
  obtain ⟨search, contained, walked, compared, own, -⟩ := reads_ask_exactly s t answers
  obtain ⟨-, -, -, -, -, differ⟩ := reads_ask_exactly s one answers
  obtain ⟨left, right⟩ := compared hs ht (by decide) (by decide)
  obtain ⟨once, once'⟩ := differ (by decide) (by decide)
  exact ⟨(search _ (by decide)).1 1 (by decide), (contained _ (by decide)).2 (by decide),
    (walked 3 (by decide) (by decide)).1, left, right, own hs (by decide) (by decide), once, once'⟩

end FrozenSet

end Licensing
