import Licensing.Proofs.FrozenSet.Iteration

/-!
# Answers on record

How often a predicate is asked while a set is read, and what it answers each time, cannot be seen
from what the read gives. A predicate that keeps a record of its answers shows it: where a set or an
iteration is watched by such a predicate, the record holds the answers that were given, in order.
Keeping it changes nothing else. Where two predicates are asked, a log of notes that differ tells
their answers apart.

## Main definitions

* `recorded` — the predicate that keeps a record of its answers.
* `FrozenSet.recorded`, `Cursor.recorded` — a set and an iteration that it watches.
* `logged`, `FrozenSet.logged` — a predicate that keeps a log of notes, and a set that it watches.

## Main results

* `Cursor.run_next_recorded` — what one call of `Cursor.next` puts on record.
-/

namespace Licensing

variable {σ α ν : Type}

/-- The predicate that also puts each of its answers at the end of a record. -/
def recorded (alive : StateM σ Bool) : StateM (σ × List Bool) Bool := do
  let (s, record) ← get
  let (answer, after) := alive.run s
  set (after, record ++ [answer])
  return answer

@[simp] theorem run_recorded (alive : StateM σ Bool) (s : σ) (record : List Bool) :
    (recorded alive).run (s, record) =
      ((alive.run s).1, ((alive.run s).2, record ++ [(alive.run s).1])) := rfl

/-- The set, watched by a predicate that keeps a record. -/
def FrozenSet.recorded (set : FrozenSet σ α) : FrozenSet (σ × List Bool) α :=
  ⟨set.items, Licensing.recorded set.alive⟩

/-- The iteration, watched by a predicate that keeps a record. -/
def Cursor.recorded (c : Cursor σ α) : Cursor (σ × List Bool) α :=
  ⟨c.rest, Licensing.recorded c.alive, c.tripped⟩

@[simp] theorem Cursor.rest_recorded (c : Cursor σ α) : c.recorded.rest = c.rest := rfl

@[simp] theorem Cursor.alive_recorded (c : Cursor σ α) :
    c.recorded.alive = Licensing.recorded c.alive := rfl

@[simp] theorem Cursor.tripped_recorded (c : Cursor σ α) : c.recorded.tripped = c.tripped := rfl

namespace Cursor

/-- A call of `next` asks the predicate up to two times, and the record changes nothing else. -/
theorem run_next_recorded (c : Cursor σ α) (s : σ) (record : List Bool) :
    c.recorded.next.run (s, record) =
      (((c.next.run s).1.1, (c.next.run s).1.2.recorded), ((c.next.run s).2, record ++
        if c.tripped then []
        else if (c.alive.run s).1 = false then [false]
        else if c.rest = [] then [true]
        else [true, (c.alive.run (c.alive.run s).2).1])) := by
  rw [run_next, run_next]
  cases tripped : c.tripped with
  | true => simp [tripped]
  | false =>
    cases first : (c.alive.run s).1 with
    | false => simp [tripped, first, Cursor.recorded]
    | true =>
      cases left : c.rest with
      | nil => simp [tripped, first, left]
      | cons item rest =>
        cases second : (c.alive.run (c.alive.run s).2).1 <;>
          simp [tripped, first, left, second, Cursor.recorded]

end Cursor

/-! ### Logs -/

/-- The predicate that also puts a note of each of its answers at the end of a log. -/
def logged (note : Bool → ν) (alive : StateM σ Bool) : StateM (σ × List ν) Bool := do
  let (s, log) ← get
  let (answer, after) := alive.run s
  set (after, log ++ [note answer])
  return answer

@[simp] theorem run_logged (note : Bool → ν) (alive : StateM σ Bool) (s : σ) (log : List ν) :
    (logged note alive).run (s, log) =
      ((alive.run s).1, ((alive.run s).2, log ++ [note (alive.run s).1])) := rfl

/-- The set, watched by a predicate that keeps a log. -/
def FrozenSet.logged (note : Bool → ν) (set : FrozenSet σ α) : FrozenSet (σ × List ν) α :=
  ⟨set.items, Licensing.logged note set.alive⟩

/-- A record is a log of the answers themselves. -/
theorem FrozenSet.recorded_eq_logged (set : FrozenSet σ α) : set.recorded = set.logged id := rfl

end Licensing
