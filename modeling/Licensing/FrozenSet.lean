import Licensing.Error
import Licensing.Text.Quoted

/-!
# Frozen sets

Ordered sets that are fixed when they are made. An owner watches over each set with a predicate that
tells whether the set can still be trusted; the predicate may depend on a state and change it, and
every read asks it first and fails if the answer is no. How often a read asks can be seen, since the
predicate may count.

## Main definitions

* `FrozenSet` — a list of elements and its predicate.
* `FrozenSet.ofList` — the set of a list, the first of equal items kept.
* `FrozenSet.ofDistinct` — the set of a list that holds no equal items.
* `Cursor` — an iteration, with `Cursor.hasMore`, `Cursor.tryNext` and `Cursor.next`.
* `FrozenSet.find?`, `FrozenSet.contains`, `FrozenSet.setEq` — reads by iteration.

## Implementation notes

Predicates are computations on one state, so that two sets may be watched by predicates of their
own, each on its part of the state, or share one.
-/

namespace Licensing

/-- An ordered set fixed when it is made, with the predicate that is asked before every read. -/
structure FrozenSet (σ α : Type) where
  items : List α
  alive : StateM σ Bool

/-- An iteration over the elements of a set that are left. -/
structure Cursor (σ α : Type) where
  rest : List α
  alive : StateM σ Bool
  /-- The iteration has reported that the set cannot be trusted and is over. -/
  tripped : Bool

variable {σ α β : Type}

/-- Asks a predicate, and fails if the answer is no. -/
def ensure (alive : StateM σ Bool) : Action σ Unit := do
  let answer ← (alive : Action σ Bool)
  if answer then pure () else throw .tamperDetected

namespace Cursor

/-- Whether an element is left. -/
def hasMore (c : Cursor σ α) : Action σ Bool := do
  ensure c.alive
  return !c.rest.isEmpty

/-- The next element and the iteration after it. -/
def tryNext (c : Cursor σ α) : Action σ (α × Cursor σ α) := do
  ensure c.alive
  match c.rest with
  | [] => throw .outOfRange
  | item :: rest => return (item, { c with rest })

/-- No element can be removed. -/
def remove (_ : Cursor σ α) : Except Error Unit :=
  .error (.unsupportedOperation "remove")

/-- The next element or an error, nothing at the end, and the iteration after it. An iteration that
could not tell whether an element is left is over. -/
def next (c : Cursor σ α) : StateM σ (Option (Except Error α) × Cursor σ α) := do
  if c.tripped then
    return (none, c)
  else
    match ← c.hasMore.run with
    | .error e => return (some (.error e), { c with tripped := true })
    | .ok false => return (none, c)
    | .ok true =>
      match ← c.tryNext.run with
      | .error e => return (some (.error e), c)
      | .ok (item, after) => return (some (.ok item), after)

/-- What up to `steps` calls of `next` give, up to the end. -/
def take : (steps : Nat) → Cursor σ α → StateM σ (List (Except Error α) × Cursor σ α)
  | 0, c => return ([], c)
  | steps + 1, c => do
    match ← c.next with
    | (none, after) => return ([], after)
    | (some result, after) =>
      let (results, last) ← take steps after
      return (result :: results, last)

end Cursor

/-- Goes through elements until `visit` gives a value. The predicate is asked whether an element is
left and again when it is taken, as `Cursor.next` asks it, and the first answer no ends it. -/
def visitUntil (alive : StateM σ Bool) (visit : α → Action σ (Option β)) :
    List α → Action σ (Option β)
  | [] => do
    ensure alive
    return none
  | item :: rest => do
    ensure alive
    ensure alive
    match ← visit item with
    | some value => return some value
    | none => visitUntil alive visit rest

namespace FrozenSet

/-- The set of a list, the first of equal items kept, watched by a predicate. -/
def guarded [BEq α] (items : List α) (alive : StateM σ Bool) : FrozenSet σ α :=
  ⟨items.eraseDups, alive⟩

/-- The set of a list, the first of equal items kept. -/
def ofList [BEq α] (items : List α) : FrozenSet σ α :=
  guarded items (pure true)

/-- The set of a list that holds no equal items, which is left to whoever makes it: none are looked
for and none are dropped. -/
def ofDistinct (items : List α) : FrozenSet σ α :=
  ⟨items, pure true⟩

/-- The number of elements. -/
def len (s : FrozenSet σ α) : Action σ Nat := do
  ensure s.alive
  return s.items.length

/-- Whether there are no elements. -/
def isEmpty (s : FrozenSet σ α) : Action σ Bool := do
  return (← s.len) == 0

/-- An iteration over all elements. -/
def iter (s : FrozenSet σ α) : Action σ (Cursor σ α) := do
  ensure s.alive
  return ⟨s.items, s.alive, false⟩

/-- The elements in order. -/
def toList (s : FrozenSet σ α) : Action σ (List α) := do
  ensure s.alive
  return s.items

/-- The first element with a property. -/
def find? (s : FrozenSet σ α) (property : α → Bool) : Action σ (Option α) := do
  let c ← s.iter
  visitUntil c.alive (fun item => return if property item then some item else none) c.rest

/-- Whether an item is an element. -/
def contains [BEq α] (s : FrozenSet σ α) (item : α) : Action σ Bool := do
  return (← s.find? (· == item)).isSome

/-- Whether two sets have the same elements, in whatever order. -/
def setEq [BEq α] (s t : FrozenSet σ α) : Action σ Bool := do
  let left ← s.len
  let right ← t.len
  if left ≠ right then
    return false
  else
    let c ← s.iter
    let foreign ← visitUntil c.alive
      (fun item => do return if ← t.contains item then none else some ()) c.rest
    return foreign.isNone

/-- Whether two sets have the same elements, sets that cannot be trusted being equal to none. -/
def same [BEq α] (s t : FrozenSet σ α) : StateM σ Bool := do
  match ← (s.setEq t).run with
  | .ok answer => return answer
  | .error _ => return false

/-- The shown elements between braces. -/
def describe (s : FrozenSet σ α) (describeItem : α → String) : StateM σ String := do
  if ← s.alive then
    return Text.bracketed "\x7b" "\x7d" (s.items.map describeItem)
  else
    return "ImmutableSet \x7b <tampered> \x7d"

/-- No element can be added. -/
def add (_ : FrozenSet σ α) (_ : α) : Except Error Bool :=
  .error (.unsupportedOperation "add")

/-- No element can be removed. -/
def remove (_ : FrozenSet σ α) (_ : α) : Except Error Bool :=
  .error (.unsupportedOperation "remove")

/-- The elements cannot be dropped. -/
def clear (_ : FrozenSet σ α) : Except Error Unit :=
  .error (.unsupportedOperation "clear")

end FrozenSet

end Licensing
