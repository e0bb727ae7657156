import Licensing.FrozenSet
import Mathlib.Tactic.Common

/-!
# Where an iteration ends

Repeated calls of `Cursor.next` on one iteration. A predicate that answers no when it is asked
whether an element is left ends the iteration: its error is reported once and nothing comes after
it. A predicate that answers yes to this question and no to the next one, when the element is taken,
does not: its error is reported, and the iteration goes on from the same element.

## Main definitions

* `Cursor.nextTimes` — what some calls give, whatever they give.
* `Cursor.StopsAtError` — no call after one that reports an error gives anything.
* `Cursor.RefusedLate` — the next call is refused when it takes its element.
* `Cursor.Next` — all that a call can come to.
* `Cursor.loop` — a loop over an iteration, which the first error ends.

## Main results

* `Cursor.next_cases` — a call comes to one of these.
* `Cursor.stopsAtError_and_yields_le` — calls that are not refused late report one error at most,
  and give one result more than there are elements at most.
* `Cursor.not_stopsAtError` — a call that is refused late is followed by another result.
* `Cursor.results_stop_iff` — calls stop at an error and end in time if and only if none of them
  but the last one is refused late.
* `Cursor.visitUntil_eq_loop`, `FrozenSet.find?_eq_loop`, `FrozenSet.setEq_eq_loop` — reads by
  iteration are loops over `Cursor.next`.
-/

namespace Licensing.Cursor

variable {σ α : Type}

/-- What some calls of `next` give, whatever they give, and the iteration after them. -/
def nextTimes : (calls : Nat) → Cursor σ α →
    StateM σ (List (Option (Except Error α)) × Cursor σ α)
  | 0, c => return ([], c)
  | calls + 1, c => do
    let (result, after) ← c.next
    let (results, last) ← nextTimes calls after
    return (result :: results, last)

/-- What some calls give, one after the other, that begin in a state. -/
def results (c : Cursor σ α) (calls : Nat) (s : σ) : List (Option (Except Error α)) :=
  ((nextTimes calls c).run s).1.1

/-- The iteration after some calls that begin in a state, and the state then. -/
def after (c : Cursor σ α) (calls : Nat) (s : σ) : Cursor σ α × σ :=
  (((nextTimes calls c).run s).1.2, ((nextTimes calls c).run s).2)

/-- No call after one that reports an error gives anything. -/
def StopsAtError (results : List (Option (Except Error α))) : Prop :=
  results.Pairwise fun earlier later => (∃ e, earlier = some (.error e)) → later = none

/-- How many calls give an element or report an error. -/
def yields (results : List (Option (Except Error α))) : Nat :=
  results.countP Option.isSome

/-- The next call finds that an element is left, and is refused when it takes the element. -/
structure RefusedLate (c : Cursor σ α) (s : σ) : Prop where
  going : c.tripped = false
  left : c.rest ≠ []
  found : (c.alive.run s).1 = true
  refused : (c.alive.run (c.alive.run s).2).1 = false

/-! ### One call -/

/-- All that a call can come to: what it gives, the iteration after it, and the state then. -/
inductive Next (c : Cursor σ α) (s : σ) : Option (Except Error α) → Cursor σ α → σ → Prop
  | ended (tripped : c.tripped = true) : Next c s none c s
  | refused (going : c.tripped = false) (no : (c.alive.run s).1 = false) :
      Next c s (some (.error .tamperDetected)) { c with tripped := true } (c.alive.run s).2
  | atEnd (going : c.tripped = false) (found : (c.alive.run s).1 = true) (empty : c.rest = []) :
      Next c s none c (c.alive.run s).2
  | refusedLate (late : c.RefusedLate s) :
      Next c s (some (.error .tamperDetected)) c (c.alive.run (c.alive.run s).2).2
  | item {item : α} {rest : List α} (going : c.tripped = false)
      (found : (c.alive.run s).1 = true) (left : c.rest = item :: rest)
      (taken : (c.alive.run (c.alive.run s).2).1 = true) :
      Next c s (some (.ok item)) { c with rest } (c.alive.run (c.alive.run s).2).2

theorem run_ensure (alive : StateM σ Bool) (s : σ) :
    (ensure alive).run.run s =
      (if (alive.run s).1 then .ok () else .error .tamperDetected, (alive.run s).2) := by
  change (if (alive.run s).1 then _ else _ : Action σ Unit).run.run (alive.run s).2 = _
  split <;> rfl

theorem run_hasMore (c : Cursor σ α) (s : σ) :
    c.hasMore.run.run s =
      (if (c.alive.run s).1 then .ok (!c.rest.isEmpty) else .error .tamperDetected,
        (c.alive.run s).2) := by
  rw [hasMore, ExceptT.run_bind, StateT.run_bind, run_ensure]
  cases (c.alive.run s).1 <;> rfl

theorem run_tryNext {c : Cursor σ α} {item : α} {rest : List α} (left : c.rest = item :: rest)
    (s : σ) :
    c.tryNext.run.run s =
      (if (c.alive.run s).1 then .ok (item, { c with rest }) else .error .tamperDetected,
        (c.alive.run s).2) := by
  rw [tryNext, ExceptT.run_bind, StateT.run_bind, run_ensure, left]
  cases (c.alive.run s).1 <;> rfl

/-- A call asks the predicate once, and once more if it takes an element. -/
theorem run_next (c : Cursor σ α) (s : σ) :
    c.next.run s =
      if c.tripped then ((none, c), s)
      else if (c.alive.run s).1 = false then
        ((some (.error .tamperDetected), { c with tripped := true }), (c.alive.run s).2)
      else
        match c.rest with
        | [] => ((none, c), (c.alive.run s).2)
        | item :: rest =>
          if (c.alive.run (c.alive.run s).2).1 then
            ((some (.ok item), { c with rest }), (c.alive.run (c.alive.run s).2).2)
          else ((some (.error .tamperDetected), c), (c.alive.run (c.alive.run s).2).2) := by
  rw [next]
  split
  · rfl
  · rw [StateT.run_bind, run_hasMore]
    rcases (c.alive.run s).1 with _ | _
    · rfl
    · rcases left : c.rest with _ | ⟨item, rest⟩
      · rfl
      · change (c.tryNext.run >>= _ : StateM σ _).run _ = _
        rw [StateT.run_bind, run_tryNext left]
        cases (c.alive.run (c.alive.run s).2).1 <;> rfl

/-- A call comes to one of five things. -/
theorem next_cases (c : Cursor σ α) (s : σ) :
    Next c s (c.next.run s).1.1 (c.next.run s).1.2 (c.next.run s).2 := by
  rw [run_next]
  split
  · next tripped => exact .ended tripped
  · next going =>
    replace going := Bool.eq_false_iff.mpr going
    split
    · next no => exact .refused going no
    · next found =>
      replace found := by simpa using found
      split
      · next empty => exact .atEnd going found empty
      · next item rest left =>
        split
        · next taken => exact .item going found left taken
        · next refused =>
          have kept : c.rest ≠ [] := by simp [left]
          exact .refusedLate ⟨going, kept, found, Bool.eq_false_iff.mpr refused⟩

/-- A call that is refused late reports its error and leaves the iteration as it was. -/
theorem next_of_refusedLate {c : Cursor σ α} {s : σ} (late : c.RefusedLate s) :
    c.next.run s =
      ((some (.error .tamperDetected), c), (c.alive.run (c.alive.run s).2).2) := by
  obtain ⟨item, rest, left⟩ := List.exists_cons_of_ne_nil late.left
  rw [run_next]
  simp [late.going, late.found, late.refused, left]

/-- A call gives something as long as elements are left and the iteration is not over. -/
theorem next_ne_none {c : Cursor σ α} (going : c.tripped = false) (left : c.rest ≠ []) {s : σ} :
    (c.next.run s).1.1 ≠ none := by
  intro none
  have step := c.next_cases s
  rw [none] at step
  generalize (c.next.run s).1.2 = d, (c.next.run s).2 = s' at step
  cases step with
  | ended tripped => cases going.symm.trans tripped
  | atEnd _ _ empty => exact left empty

/-! ### Calls, one after the other -/

@[simp] theorem results_zero (c : Cursor σ α) (s : σ) : c.results 0 s = [] := rfl

theorem results_succ (c : Cursor σ α) (calls : Nat) (s : σ) :
    c.results (calls + 1) s =
      (c.next.run s).1.1 :: (c.next.run s).1.2.results calls (c.next.run s).2 := rfl

theorem stopsAtError_cons_iff {result : Option (Except Error α)}
    {later : List (Option (Except Error α))} :
    StopsAtError (result :: later) ↔
      ((∃ e, result = some (.error e)) → ∀ r ∈ later, r = none) ∧ StopsAtError later := by
  rw [StopsAtError, List.pairwise_cons]
  exact and_congr_left fun _ => ⟨fun h e r hr => h r hr e, fun h r hr e => h e r hr⟩

/-- An iteration that is over gives nothing. -/
theorem eq_none_of_mem_results {c : Cursor σ α} (tripped : c.tripped = true) {calls : Nat} {s : σ}
    {r : Option (Except Error α)} (mem : r ∈ c.results calls s) : r = none := by
  induction calls generalizing s with
  | zero => cases mem
  | succ calls ih =>
    rw [results_succ, run_next, if_pos tripped, List.mem_cons] at mem
    exact mem.elim id ih

/-- Results that are all nothing yield nothing. -/
theorem yields_eq_zero {results : List (Option (Except Error α))} (none : ∀ r ∈ results, r = none) :
    yields results = 0 := by
  rw [yields, List.countP_eq_zero]
  intro r mem
  simp [none r mem]

/-- Calls of which none but the last one is refused late report one error at most, and give one
result more than there are elements at most. -/
theorem stopsAtError_and_yields_le (c : Cursor σ α) (calls : Nat) (s : σ)
    (taken : ∀ earlier, earlier + 1 < calls →
      ¬ (c.after earlier s).1.RefusedLate (c.after earlier s).2) :
    StopsAtError (c.results calls s) ∧
      yields (c.results calls s) ≤ c.rest.length + if c.tripped then 0 else 1 := by
  induction calls generalizing c s with
  | zero => exact ⟨.nil, Nat.zero_le _⟩
  | succ calls ih =>
    have others : ∀ earlier, earlier + 1 < calls →
        ¬ ((c.next.run s).1.2.after earlier (c.next.run s).2).1.RefusedLate
          ((c.next.run s).1.2.after earlier (c.next.run s).2).2 := fun earlier h =>
      taken (earlier + 1) (by omega)
    have step := c.next_cases s
    have rest := ih _ _ others
    rw [results_succ, stopsAtError_cons_iff, yields, List.countP_cons]
    change (_ ∧ _) ∧ yields _ + _ ≤ _
    generalize (c.next.run s).1.1 = result, (c.next.run s).1.2 = d, (c.next.run s).2 = s' at *
    obtain ⟨stops, bound⟩ := rest
    cases step with
    | ended tripped => exact ⟨⟨by simp, stops⟩, by simpa using bound⟩
    | refused going no =>
      have nothing : ∀ r ∈ results { c with tripped := true } calls (c.alive.run s).2, r = none :=
        fun r mem => eq_none_of_mem_results rfl mem
      refine ⟨⟨fun _ => nothing, stops⟩, ?_⟩
      simp [yields_eq_zero nothing, going]
    | atEnd going found empty => exact ⟨⟨by simp, stops⟩, by simpa using bound⟩
    | refusedLate late =>
      -- such a call is the last one
      have last : calls = 0 := by
        by_contra more
        exact taken 0 (by omega) late
      subst last
      exact ⟨⟨by simp, .nil⟩, by simp [late.going, yields]⟩
    | item going found left refused =>
      refine ⟨⟨by simp, stops⟩, ?_⟩
      rw [left, List.length_cons]
      simp only [going, Option.isSome_some, if_true] at bound ⊢
      omega

/-- A call that is refused late is followed by another result. -/
theorem not_stopsAtError {c : Cursor σ α} {calls earlier : Nat} {s : σ}
    (more : earlier + 1 < calls)
    (late : (c.after earlier s).1.RefusedLate (c.after earlier s).2) :
    ¬ StopsAtError (c.results calls s) := by
  induction earlier generalizing c calls s with
  | zero =>
    obtain ⟨later, rfl⟩ : ∃ later, calls = later + 2 := ⟨calls - 2, by omega⟩
    replace late : c.RefusedLate s := late
    rw [results_succ, results_succ, next_of_refusedLate late, stopsAtError_cons_iff]
    intro stops
    exact next_ne_none late.going late.left (stops.1 ⟨_, rfl⟩ _ List.mem_cons_self)
  | succ earlier ih =>
    obtain ⟨calls, rfl⟩ : ∃ others, calls = others + 1 := ⟨calls - 1, by omega⟩
    rw [results_succ, stopsAtError_cons_iff]
    intro stops
    exact ih (by omega) late stops.2

/-- **Where calls end.** Whatever the predicate answers, repeated calls on a new iteration stop at
an error and give one result more than there are elements at most, if and only if none of them but
the last one is refused late: found an element, and was refused when taking it. -/
theorem results_stop_iff (items : List α) (alive : StateM σ Bool) (calls : Nat) (s : σ) :
    let c : Cursor σ α := ⟨items, alive, false⟩
    (StopsAtError (c.results calls s) ∧ yields (c.results calls s) ≤ items.length + 1) ↔
      ∀ earlier, earlier + 1 < calls →
        ¬ (c.after earlier s).1.RefusedLate (c.after earlier s).2 := by
  intro c
  constructor
  · rintro ⟨stops, -⟩ earlier more late
    exact not_stopsAtError more late stops
  · exact stopsAtError_and_yields_le c calls s

/-- A predicate that gives some answers in turn, and says yes after them. -/
def inTurn : StateM (List Bool) Bool := do
  match ← get with
  | [] => return true
  | answer :: others =>
    set others
    return answer

/-- Calls need not stop at an error: a set of one element, whose predicate says yes and no in turn
and then no again, reports three. -/
theorem not_always_stopsAtError :
    ¬ ∀ (items : List String) (alive : StateM (List Bool) Bool) (calls : Nat) (s : List Bool),
      let c : Cursor (List Bool) String := ⟨items, alive, false⟩
      StopsAtError (c.results calls s) ∧ yields (c.results calls s) ≤ items.length + 1 := by
  intro always
  have bound := (always ["a"] inTurn 3 [true, false, true, false, false]).2
  exact absurd bound (by decide)

/-! ### Loops over an iteration -/

section Loop

variable {β : Type}

/-- Goes through what up to `steps` calls of `next` give until `visit` gives a value. The end and
the first error end it. -/
def loop (visit : α → Action σ (Option β)) : (steps : Nat) → Cursor σ α → Action σ (Option β)
  | 0, _ => return none
  | steps + 1, c => do
    match ← (c.next : Action σ _) with
    | (none, _) => return none
    | (some (.error e), _) => throw e
    | (some (.ok item), after) =>
      match ← visit item with
      | some value => return some value
      | none => loop visit steps after

theorem run_loop_succ (visit : α → Action σ (Option β)) (steps : Nat) (c : Cursor σ α) (s : σ) :
    (c.loop visit (steps + 1)).run.run s =
      match c.next.run s with
      | ((none, _), s') => (.ok none, s')
      | ((some (.error e), _), s') => (.error e, s')
      | ((some (.ok item), after), s') =>
        (visit item >>= fun found => match found with
          | some value => pure (some value)
          | none => after.loop visit steps).run.run s' := by
  have lifted : (liftM c.next : Action σ _).run.run s =
      (.ok (c.next.run s).1, (c.next.run s).2) := rfl
  rw [loop, ExceptT.run_bind, StateT.run_bind, lifted]
  rcases c.next.run s with ⟨⟨_ | _ | _, after⟩, s'⟩ <;> rfl

theorem run_ensure_bind (alive : StateM σ Bool) (later : Action σ β) (s : σ) :
    (ensure alive >>= fun _ => later).run.run s =
      if (alive.run s).1 then later.run.run (alive.run s).2
      else (.error .tamperDetected, (alive.run s).2) := by
  rw [ExceptT.run_bind, StateT.run_bind, run_ensure]
  cases (alive.run s).1 <;> rfl

/-- Going through elements is the loop over an iteration that is not over, if one call more may be
made than elements are left. -/
theorem visitUntil_eq_loop (visit : α → Action σ (Option β)) {c : Cursor σ α}
    (going : c.tripped = false) {steps : Nat} (enough : c.rest.length < steps) :
    visitUntil c.alive visit c.rest = c.loop visit steps := by
  induction steps generalizing c with
  | zero => exact absurd enough (Nat.not_lt_zero _)
  | succ steps ih =>
    obtain ⟨items, alive, tripped⟩ := c
    subst going
    refine funext fun s => ?_
    change (visitUntil alive visit items).run.run s = (loop visit (steps + 1) _).run.run s
    rw [run_loop_succ, run_next]
    cases items with
    | nil =>
      rw [visitUntil, run_ensure_bind]
      cases (alive.run s).1 <;> rfl
    | cons item items =>
      have rest : visitUntil alive visit items = loop visit steps ⟨items, alive, false⟩ :=
        ih (c := ⟨items, alive, false⟩) rfl (Nat.lt_of_succ_lt_succ enough)
      rw [visitUntil, run_ensure_bind, run_ensure_bind, rest]
      cases (alive.run s).1
      · rfl
      · cases (alive.run (alive.run s).2).1 <;> rfl

end Loop

end Licensing.Cursor

namespace Licensing.FrozenSet

variable {σ α β : Type}

/-- What follows an iteration that begins follows the answer of the predicate. -/
theorem iter_bind (s : FrozenSet σ α) (f : Cursor σ α → Action σ β) :
    (s.iter >>= f) = ensure s.alive >>= fun _ => f ⟨s.items, s.alive, false⟩ := by
  rw [iter, bind_assoc]
  rfl

theorem run_iter (s : FrozenSet σ α) (x : σ) :
    s.iter.run.run x =
      (if (s.alive.run x).1 then .ok ⟨s.items, s.alive, false⟩ else .error .tamperDetected,
        (s.alive.run x).2) := by
  rw [iter, ExceptT.run_bind, StateT.run_bind, Cursor.run_ensure]
  cases (s.alive.run x).1 <;> rfl

/-- Going through the elements of a set is a loop over an iteration. -/
theorem visitUntil_iter (s : FrozenSet σ α) (visit : α → Action σ (Option β)) :
    (do let c ← s.iter; visitUntil c.alive visit c.rest) =
      (do let c ← s.iter; c.loop visit (c.rest.length + 1)) := by
  rw [iter_bind, iter_bind]
  exact bind_congr fun _ => Cursor.visitUntil_eq_loop visit rfl (Nat.lt_succ_self _)

/-- A search is a loop over an iteration. -/
theorem find?_eq_loop (s : FrozenSet σ α) (property : α → Bool) :
    s.find? property = (do
      let c ← s.iter
      c.loop (fun item => return if property item then some item else none) (c.rest.length + 1)) :=
  s.visitUntil_iter _

/-- A comparison of two sets with as many elements is a loop over an iteration. -/
theorem setEq_eq_loop [BEq α] (s t : FrozenSet σ α) :
    s.setEq t = (do
      let left ← s.len
      let right ← t.len
      if left ≠ right then
        return false
      else
        let c ← s.iter
        let foreign ← c.loop (fun item => do return if ← t.contains item then none else some ())
          (c.rest.length + 1)
        return foreign.isNone) := by
  refine bind_congr fun left => bind_congr fun right => ?_
  congr 1
  rw [← bind_assoc, ← bind_assoc]
  exact congrArg (· >>= _) (s.visitUntil_iter _)

end Licensing.FrozenSet
