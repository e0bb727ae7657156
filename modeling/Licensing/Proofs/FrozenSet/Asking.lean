import Licensing.Proofs.FrozenSet
import Licensing.Proofs.FrozenSet.Recording

/-!
# The order in which reads ask

A read asks the predicates of the sets that it reads, some reads many times and in loops inside each
other. Whom it asks when does not depend on the answers, but on the elements of the sets only: it
asks in an order that is fixed before, and fails at the first answer no, if there is one.

## Main definitions

* `Asks` — a computation asks in an order up to an answer no, and otherwise has a value.
* `FrozenSet.Read`, `FrozenSet.Read.perform`, `FrozenSet.Read.ofLists` — the reads, of sets and of
  lists.
* `visitOrder`, `findOrder`, `FrozenSet.Read.order` — the order in which an iteration, a search and
  a read ask.

## Main results

* `Asks.pure`, `Asks.bind`, `asks_ensure`, `asks_visitUntil` — what computations that ask in an
  order are put together from.
* `FrozenSet.Read.asks` — every read asks in its order.
* `FrozenSet.Read.map_order` — the order is the same one whoever is asked.
-/

namespace Licensing

variable {ι κ ν σ α β γ : Type}

/-! ### Computations that ask in an order -/

/-- How a computation with a value ends, and the notes of the answers that it was given, if it asks
in an order, which is given by what is noted of each answer. -/
inductive AsksUntilRefused (value : β) (order : List (Bool → ν)) : List ν → Except Error β → Prop
  | trusted : AsksUntilRefused value order (order.map (· true)) (.ok value)
  | tampered {earlier later : List (Bool → ν)} {note : Bool → ν}
      (place : order = earlier ++ note :: later) :
      AsksUntilRefused value order (earlier.map (· true) ++ [note false]) (.error .tamperDetected)

/-- A computation asks in an order up to an answer no, at which it fails, and has a value if there
is none. It is given twice, with and without a log, and the log changes nothing. -/
def Asks (plain : Action σ β) (noted : Action (σ × List ν) β) (value : β)
    (order : List (Bool → ν)) : Prop :=
  ∀ (s : σ) (log : List ν), ∃ notes,
    noted.run.run (s, log) = ((plain.run.run s).1, ((plain.run.run s).2, log ++ notes)) ∧
      AsksUntilRefused value order notes (plain.run.run s).1

theorem run_bind_of_ok {x : Action σ β} {f : β → Action σ γ} {s s' : σ} {b : β}
    (h : x.run.run s = (.ok b, s')) : (x >>= f).run.run s = (f b).run.run s' := by
  rw [ExceptT.run_bind, StateT.run_bind, h]
  rfl

theorem run_bind_of_error {x : Action σ β} {f : β → Action σ γ} {s s' : σ} {e : Error}
    (h : x.run.run s = (.error e, s')) : (x >>= f).run.run s = (.error e, s') := by
  rw [ExceptT.run_bind, StateT.run_bind, h]
  rfl

namespace Asks

theorem pure (value : β) :
    Asks (pure value : Action σ β) (pure value : Action (σ × List ν) β) value [] :=
  fun s log => ⟨[], by rw [List.append_nil]; rfl, .trusted⟩

/-- Two computations, one after the other, ask in their orders, one after the other. -/
theorem bind {x : Action σ β} {x' : Action (σ × List ν) β} {b : β} {f : β → Action σ γ}
    {f' : β → Action (σ × List ν) γ} {c : γ} {order order' : List (Bool → ν)}
    (first : Asks x x' b order) (second : Asks (f b) (f' b) c order') :
    Asks (x >>= f) (x' >>= f') c (order ++ order') := by
  intro s log
  obtain ⟨notes, noted, ends⟩ := first s log
  rcases h : x.run.run s with ⟨result, s'⟩
  rw [h] at noted ends
  cases ends with
  | trusted =>
    obtain ⟨others, noted', ends'⟩ := second s' (log ++ order.map (· true))
    rw [run_bind_of_ok h, run_bind_of_ok noted]
    refine ⟨order.map (· true) ++ others, by rw [noted', List.append_assoc], ?_⟩
    generalize ((f b).run.run s').1 = result at ends' ⊢
    cases ends' with
    | trusted =>
      rw [← List.map_append]
      exact .trusted
    | @tampered earlier later note place =>
      have place' : order ++ order' = (order ++ earlier) ++ note :: later := by
        rw [place, List.append_assoc]
      rw [← List.append_assoc, ← List.map_append]
      exact .tampered place'
  | @tampered earlier later note place =>
    have place' : order ++ order' = earlier ++ note :: (later ++ order') := by
      rw [place, List.append_assoc, List.cons_append]
    rw [run_bind_of_error h, run_bind_of_error noted]
    exact ⟨_, rfl, .tampered place'⟩

end Asks

/-- Asking a predicate. -/
theorem asks_ensure (note : Bool → ν) (alive : StateM σ Bool) :
    Asks (ensure alive) (ensure (logged note alive)) () [note] := by
  intro s log
  rw [Cursor.run_ensure, Cursor.run_ensure, run_logged]
  refine ⟨[note (alive.run s).1], rfl, ?_⟩
  cases (alive.run s).1 with
  | false =>
    have place : [note] = [] ++ note :: [] := rfl
    exact .tampered place
  | true => exact .trusted

/-- The order in which an iteration asks: twice before each visit, and once at the end unless a
visit stops it. -/
def visitOrder (who : ι) (stops : α → Bool) (order : α → List ι) : List α → List ι
  | [] => [who]
  | item :: rest =>
    who :: who :: (order item ++ if stops item then [] else visitOrder who stops order rest)

/-- An iteration whose visits ask in an order asks in an order, and gives the first value there
is. -/
theorem asks_visitUntil {note : Bool → ν} {alive : StateM σ Bool} {visit : α → Action σ (Option β)}
    {visit' : α → Action (σ × List ν) (Option β)} {value? : α → Option β} {stops : α → Bool}
    {order : α → List (Bool → ν)}
    (h : ∀ item, Asks (visit item) (visit' item) (value? item) (order item))
    (h' : ∀ item, stops item = (value? item).isSome) (items : List α) :
    Asks (visitUntil alive visit items) (visitUntil (logged note alive) visit' items)
      (items.findSome? value?) (visitOrder note stops order items) := by
  induction items with
  | nil => exact (asks_ensure note alive).bind (.pure none)
  | cons item items ih =>
    refine (asks_ensure note alive).bind ((asks_ensure note alive).bind ((h item).bind ?_))
    rw [List.findSome?_cons, h']
    cases value? item with
    | none => exact ih
    | some value => exact .pure (some value)

/-- The order in which a search asks: once for the iteration, whose visits do not ask. -/
def findOrder (who : ι) (property : α → Bool) (items : List α) : List ι :=
  who :: visitOrder who property (fun _ => []) items

/-- The order of an iteration is the same one whoever is asked. -/
theorem map_visitOrder (f : ι → κ) (who : ι) (stops : α → Bool) (order : α → List ι)
    (items : List α) :
    (visitOrder who stops order items).map f =
      visitOrder (f who) stops (fun item => (order item).map f) items := by
  induction items with
  | nil => rfl
  | cons item items ih =>
    simp only [visitOrder, List.map_cons, List.map_append]
    cases stops item with
    | true => rfl
    | false => exact congrArg _ (congrArg _ (congrArg _ ih))

theorem map_findOrder (f : ι → κ) (who : ι) (property : α → Bool) (items : List α) :
    (findOrder who property items).map f = findOrder (f who) property items :=
  congrArg (f who :: ·) (map_visitOrder f who property _ items)

/-! ### Reads -/

namespace FrozenSet

/-- The reads of a set, the last one of two sets, by what they give. An iteration begins with the
elements that are left, and is not over. -/
inductive Read (α : Type) : Type → Type
  | len : Read α Nat
  | isEmpty : Read α Bool
  | iter : Read α (List α × Bool)
  | find? (property : α → Bool) : Read α (Option α)
  | contains (item : α) : Read α Bool
  | toList : Read α (List α)
  | setEq : Read α Bool

namespace Read

variable [BEq α]

/-- A read of two sets. -/
def perform (s t : FrozenSet σ α) : Read α β → Action σ β
  | .len => s.len
  | .isEmpty => s.isEmpty
  | .iter => do
    let c ← s.iter
    return (c.rest, c.tripped)
  | .find? property => s.find? property
  | .contains item => s.contains item
  | .toList => s.toList
  | .setEq => s.setEq t

/-- A read of two lists. They are compared as sets are. -/
def ofLists (xs ys : List α) : Read α β → β
  | .len => xs.length
  | .isEmpty => xs.isEmpty
  | .iter => (xs, false)
  | .find? property => xs.find? property
  | .contains item => xs.any (· == item)
  | .toList => xs
  | .setEq => decide (xs.length = ys.length) && xs.all fun x => ys.any (· == x)

/-- The order in which a read of two sets asks. Sets of one size are compared by an iteration over
the one, each visit of which is a search in the other. -/
def order (left right : ι) (xs ys : List α) : Read α β → List ι
  | .find? property => findOrder left property xs
  | .contains item => findOrder left (· == item) xs
  | .setEq =>
    left :: right ::
      if xs.length = ys.length then
        left :: visitOrder left (fun x => !ys.any (· == x))
          (fun x => findOrder right (· == x) ys) xs
      else []
  | _ => [left]

theorem order_setEq_of_eq {left right : ι} {xs ys : List α} (equal : xs.length = ys.length) :
    Read.setEq.order left right xs ys =
      left :: right :: left :: visitOrder left (fun x => !ys.any (· == x))
        (fun x => findOrder right (· == x) ys) xs := by
  rw [order, if_pos equal]

theorem order_setEq_of_ne {left right : ι} {xs ys : List α} (differ : xs.length ≠ ys.length) :
    Read.setEq.order left right xs ys = [left, right] := by
  rw [order, if_neg differ]

/-- The order of a read is the same one whoever is asked. -/
theorem map_order (f : ι → κ) (left right : ι) (xs ys : List α) (read : Read α β) :
    (read.order left right xs ys).map f = read.order (f left) (f right) xs ys := by
  cases read with
  | find? property => exact map_findOrder f left property xs
  | contains item => exact map_findOrder f left (· == item) xs
  | setEq =>
    by_cases equal : xs.length = ys.length
    · simp only [order, if_pos equal, List.map_cons, map_visitOrder, map_findOrder]
    · simp only [order, if_neg equal, List.map_cons, List.map_nil]
  | len | isEmpty | iter | toList => rfl

end Read

variable (s t : FrozenSet σ α) (note note' : Bool → ν)

theorem asks_len : Asks s.len (s.logged note).len s.items.length [note] :=
  (asks_ensure note s.alive).bind (.pure _)

theorem asks_isEmpty : Asks s.isEmpty (s.logged note).isEmpty s.items.isEmpty [note] := by
  have empty : s.items.isEmpty = (s.items.length == 0) := by
    cases s.items <;> rfl
  rw [empty]
  exact (s.asks_len note).bind (.pure _)

theorem asks_toList : Asks s.toList (s.logged note).toList s.items [note] :=
  (asks_ensure note s.alive).bind (.pure _)

theorem asks_find? (property : α → Bool) :
    Asks (s.find? property) ((s.logged note).find? property) (s.items.find? property)
      (findOrder note property s.items) := by
  rw [find?, find?, iter_bind, iter_bind, List.find?_eq_findSome?_guard]
  refine (asks_ensure note s.alive).bind
    (asks_visitUntil (fun _ => .pure _) (fun item => ?_) s.items)
  cases property item <;> rfl

variable [BEq α]

theorem asks_contains (item : α) :
    Asks (s.contains item) ((s.logged note).contains item) (s.items.any (· == item))
      (findOrder note (· == item) s.items) := by
  rw [← List.isSome_find?, ← List.append_nil (findOrder _ _ _)]
  exact (s.asks_find? note (· == item)).bind (.pure _)

/-- Two sets are compared by their numbers of elements, and then by looking for each element of the
one in the other. -/
theorem asks_setEq :
    Asks (s.setEq t) ((s.logged note).setEq (t.logged note')) (Read.setEq.ofLists s.items t.items)
      (Read.setEq.order note note' s.items t.items) := by
  have visit (item : α) : Asks
      (do return if ← t.contains item then none else some ())
      (do return if ← (t.logged note').contains item then none else some ())
      (if t.items.any (· == item) then none else some ())
      (findOrder note' (· == item) t.items) := by
    rw [← List.append_nil (findOrder _ _ _)]
    exact (t.asks_contains note' item).bind (.pure _)
  rw [setEq, setEq, Read.ofLists]
  by_cases equal : s.items.length = t.items.length
  · rw [Read.order_setEq_of_eq equal, decide_eq_true equal, Bool.true_and,
      ← isNone_findSome?_unless, ← List.append_nil (visitOrder _ _ _ _)]
    refine (s.asks_len note).bind ((t.asks_len note').bind ?_)
    rw [if_neg (not_not_intro equal), if_neg (not_not_intro equal), iter_bind, iter_bind]
    refine (asks_ensure note s.alive).bind ?_
    refine (asks_visitUntil visit (fun item => ?_) s.items).bind (.pure _)
    cases t.items.any (· == item) <;> rfl
  · rw [Read.order_setEq_of_ne equal, decide_eq_false equal, Bool.false_and]
    refine (s.asks_len note).bind ((t.asks_len note').bind ?_)
    rw [if_pos equal, if_pos equal]
    exact .pure false

/-- Every read asks in its order. -/
theorem Read.asks (read : Read α β) :
    Asks (read.perform s t) (read.perform (s.logged note) (t.logged note'))
      (read.ofLists s.items t.items) (read.order note note' s.items t.items) := by
  cases read with
  | len => exact s.asks_len note
  | isEmpty => exact s.asks_isEmpty note
  | iter =>
    rw [perform, perform, iter_bind, iter_bind]
    exact (asks_ensure note s.alive).bind (.pure _)
  | find? property => exact s.asks_find? note property
  | contains item => exact s.asks_contains note item
  | toList => exact s.asks_toList note
  | setEq => exact s.asks_setEq t note note'

end FrozenSet

end Licensing
