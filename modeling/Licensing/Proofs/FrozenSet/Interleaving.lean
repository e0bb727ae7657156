import Licensing.Proofs.FrozenSet.Recording

/-!
# Mixed calls on one iteration

An iteration takes four calls, and one caller may mix them as it likes: `Cursor.hasMore`,
`Cursor.tryNext`, `Cursor.next` and `Cursor.remove`. What a call comes to depends on the elements
that are left, on whether the iteration is over for `Cursor.next`, and on the answers of the
predicate, and on nothing else. Whichever calls are made and whatever the predicate answers, the
elements that were given and those that are left are always the elements of the set, in order.

## Main definitions

* `Cursor.Call`, `Cursor.Answer`, `Cursor.perform` — a call and what it comes to.
* `Cursor.performAll`, `Cursor.answers`, `Cursor.afterAll` — calls, one after the other.
* `Cursor.evaluations` — what the predicate answers during a call.
* `Cursor.Step` — all that a call can come to, by what the predicate answers.

## Main results

* `Cursor.step_perform` — a call comes to one of these.
* `Cursor.Step.elements_append_rest` — what one call gives and leaves.
* `Cursor.elements_append_rest` — what some calls give and leave.
* `Cursor.calls_give_elements_in_order` — mixed calls lose, repeat and reorder no element.
-/

namespace Licensing.Cursor

variable {σ α : Type}

/-- The calls that an iteration takes. -/
inductive Call where
  | hasMore
  | tryNext
  | next
  | remove
  deriving DecidableEq, Repr

/-- What a call gives to its caller. -/
inductive Answer (α : Type) where
  | hasMore (answer : Except Error Bool)
  | tryNext (answer : Except Error α)
  | next (answer : Option (Except Error α))
  | remove (answer : Except Error Unit)

/-- The element that an answer gives. -/
def Answer.element? : Answer α → Option α
  | tryNext (.ok item) | next (some (.ok item)) => some item
  | _ => none

/-- The elements that some answers give, one after the other. -/
def elements (answers : List (Answer α)) : List α :=
  answers.filterMap Answer.element?

/-- What a call gives, and the iteration after it. A call that fails gives no other iteration. -/
def perform (c : Cursor σ α) : Call → StateM σ (Answer α × Cursor σ α)
  | .hasMore => do
    let answer ← c.hasMore.run
    return (.hasMore answer, c)
  | .tryNext => do
    match ← c.tryNext.run with
    | .ok (item, after) => return (.tryNext (.ok item), after)
    | .error e => return (.tryNext (.error e), c)
  | .next => do
    let (answer, after) ← c.next
    return (.next answer, after)
  | .remove => return (.remove c.remove, c)

/-- What some calls give, one after the other, and the iteration after them. -/
def performAll : List Call → Cursor σ α → StateM σ (List (Answer α) × Cursor σ α)
  | [], c => return ([], c)
  | call :: calls, c => do
    let (answer, after) ← c.perform call
    let (answers, last) ← performAll calls after
    return (answer :: answers, last)

/-- What some calls that begin in a state give. -/
def answers (c : Cursor σ α) (calls : List Call) (s : σ) : List (Answer α) :=
  ((performAll calls c).run s).1.1

/-- The iteration after some calls that begin in a state, and the state then. -/
def afterAll (c : Cursor σ α) (calls : List Call) (s : σ) : Cursor σ α × σ :=
  (((performAll calls c).run s).1.2, ((performAll calls c).run s).2)

/-- What the predicate answers during a call that begins in a state. -/
def evaluations (c : Cursor σ α) (call : Call) (s : σ) : List Bool :=
  ((c.recorded.perform call).run (s, [])).2.2

/-! ### One call -/

/-- All that a call can come to, by what the predicate answers: what the call gives, and the
iteration after it. -/
inductive Step (c : Cursor σ α) : Call → List Bool → Answer α → Cursor σ α → Prop
  | unknown : Step c .hasMore [false] (.hasMore (.error .tamperDetected)) c
  | known : Step c .hasMore [true] (.hasMore (.ok !c.rest.isEmpty)) c
  | refused : Step c .tryNext [false] (.tryNext (.error .tamperDetected)) c
  | pastEnd (empty : c.rest = []) : Step c .tryNext [true] (.tryNext (.error .outOfRange)) c
  | taken {item : α} {rest : List α} (left : c.rest = item :: rest) :
      Step c .tryNext [true] (.tryNext (.ok item)) { c with rest }
  | over (tripped : c.tripped = true) : Step c .next [] (.next none) c
  | trips (going : c.tripped = false) :
      Step c .next [false] (.next (some (.error .tamperDetected))) { c with tripped := true }
  | ended (going : c.tripped = false) (empty : c.rest = []) : Step c .next [true] (.next none) c
  | refusedLate (going : c.tripped = false) (left : c.rest ≠ []) :
      Step c .next [true, false] (.next (some (.error .tamperDetected))) c
  | given {item : α} {rest : List α} (going : c.tripped = false) (left : c.rest = item :: rest) :
      Step c .next [true, true] (.next (some (.ok item))) { c with rest }
  | unsupported : Step c .remove [] (.remove (.error (.unsupportedOperation "remove"))) c

theorem run_tryNext_of_empty {c : Cursor σ α} (empty : c.rest = []) (s : σ) :
    c.tryNext.run.run s =
      (.error (if (c.alive.run s).1 then .outOfRange else .tamperDetected), (c.alive.run s).2) := by
  rw [tryNext, ExceptT.run_bind, StateT.run_bind, run_ensure, empty]
  cases (c.alive.run s).1 <;> rfl

theorem run_perform_hasMore (c : Cursor σ α) (s : σ) :
    (c.perform .hasMore).run s =
      ((.hasMore (if (c.alive.run s).1 then .ok !c.rest.isEmpty else .error .tamperDetected), c),
        (c.alive.run s).2) := by
  change ((Answer.hasMore (c.hasMore.run.run s).1, c), (c.hasMore.run.run s).2) = _
  rw [run_hasMore]

theorem run_perform_tryNext (c : Cursor σ α) (s : σ) :
    (c.perform .tryNext).run s =
      ((if (c.alive.run s).1 then
          match c.rest with
          | [] => (.tryNext (.error .outOfRange), c)
          | item :: rest => (.tryNext (.ok item), { c with rest })
        else (.tryNext (.error .tamperDetected), c)),
        (c.alive.run s).2) := by
  rw [perform, StateT.run_bind]
  rcases left : c.rest with _ | ⟨item, rest⟩
  · rw [run_tryNext_of_empty left]
    cases (c.alive.run s).1 <;> rfl
  · rw [run_tryNext left]
    cases (c.alive.run s).1 <;> rfl

theorem run_perform_next (c : Cursor σ α) (s : σ) :
    (c.perform .next).run s =
      ((.next (c.next.run s).1.1, (c.next.run s).1.2), (c.next.run s).2) := rfl

theorem evaluations_hasMore (c : Cursor σ α) (s : σ) :
    c.evaluations .hasMore s = [(c.alive.run s).1] := by
  rw [evaluations, run_perform_hasMore]
  rfl

theorem evaluations_tryNext (c : Cursor σ α) (s : σ) :
    c.evaluations .tryNext s = [(c.alive.run s).1] := by
  rw [evaluations, run_perform_tryNext]
  rfl

theorem evaluations_next (c : Cursor σ α) (s : σ) :
    c.evaluations .next s =
      if c.tripped then []
      else if (c.alive.run s).1 = false then [false]
      else if c.rest = [] then [true]
      else [true, (c.alive.run (c.alive.run s).2).1] := by
  rw [evaluations, run_perform_next, run_next_recorded, List.nil_append]

/-- A record changes nothing that a call comes to. -/
theorem run_perform_recorded (c : Cursor σ α) (call : Call) (s : σ) :
    (c.recorded.perform call).run (s, []) =
      ((((c.perform call).run s).1.1, ((c.perform call).run s).1.2.recorded),
        (((c.perform call).run s).2, c.evaluations call s)) := by
  cases call with
  | hasMore =>
    rw [evaluations, run_perform_hasMore, run_perform_hasMore]
    rfl
  | tryNext =>
    rw [evaluations, run_perform_tryNext, run_perform_tryNext]
    cases first : (c.alive.run s).1 with
    | false => simp [first]
    | true => cases left : c.rest <;> simp [first, left, Cursor.recorded]
  | next =>
    rw [evaluations, run_perform_next, run_perform_next, run_next_recorded, List.nil_append]
  | remove => rfl

/-- A call comes to one of these things. -/
theorem step_perform (c : Cursor σ α) (call : Call) (s : σ) :
    Step c call (c.evaluations call s) ((c.perform call).run s).1.1
      ((c.perform call).run s).1.2 := by
  cases call with
  | hasMore =>
    rw [evaluations_hasMore, run_perform_hasMore]
    cases (c.alive.run s).1 with
    | false => exact .unknown
    | true => exact .known
  | tryNext =>
    rw [evaluations_tryNext, run_perform_tryNext]
    cases (c.alive.run s).1 with
    | false => exact .refused
    | true =>
      rcases left : c.rest with _ | ⟨item, rest⟩
      · exact .pastEnd left
      · exact .taken left
  | next =>
    have step := c.next_cases s
    rw [evaluations_next, run_perform_next]
    dsimp only
    generalize (c.next.run s).1.1 = answer, (c.next.run s).1.2 = after, (c.next.run s).2 = s'
      at step ⊢
    cases step with
    | ended tripped => simpa [tripped] using Step.over tripped
    | refused going no => simpa [going, no] using Step.trips going
    | atEnd going found empty => simpa [going, found, empty] using Step.ended going empty
    | refusedLate late =>
      simpa [late.going, late.found, late.left, late.refused] using
        Step.refusedLate late.going late.left
    | item going found left taken => simpa [going, found, left, taken] using Step.given going left
  | remove => exact .unsupported

namespace Step

variable {c after : Cursor σ α} {call : Call} {made : List Bool} {answer : Answer α}

/-- The element that a call gives, if it gives one, is the first one that was left. -/
theorem elements_append_rest (step : Step c call made answer after) :
    answer.element?.toList ++ after.rest = c.rest := by
  cases step with
  | taken left | given _ left => exact left.symm
  | _ => rfl

/-- A call that tells whether an element is left tells the truth. -/
theorem eq_isEmpty {more : Bool} (step : Step c call made (.hasMore (.ok more)) after) :
    more = !c.rest.isEmpty := by
  cases step
  rfl

/-- A call is past the end if and only if it asks for an element, the predicate answers yes, and no
element is left. -/
theorem outOfRange_iff (step : Step c call made answer after) :
    answer = .tryNext (.error .outOfRange) ↔ call = .tryNext ∧ made = [true] ∧ c.rest = [] := by
  cases step with
  | pastEnd empty => simp [empty]
  | taken left => simp [left]
  | _ => simp

/-- The last answer of the predicate is yes if a call gives an element or tells whether one is
left. -/
theorem getLast?_eq (step : Step c call made answer after)
    (answered : answer.element? ≠ none ∨ ∃ more, answer = .hasMore (.ok more)) :
    made.getLast? = some true := by
  cases step with
  | known | taken | given => rfl
  | _ => simp [Answer.element?] at answered

end Step

/-! ### Calls, one after the other -/

theorem elements_cons (answer : Answer α) (answers : List (Answer α)) :
    elements (answer :: answers) = answer.element?.toList ++ elements answers := by
  rw [elements, List.filterMap_cons]
  cases answer.element? <;> rfl

theorem answers_cons (c : Cursor σ α) (call : Call) (calls : List Call) (s : σ) :
    c.answers (call :: calls) s =
      ((c.perform call).run s).1.1 ::
        ((c.perform call).run s).1.2.answers calls ((c.perform call).run s).2 := rfl

theorem afterAll_cons (c : Cursor σ α) (call : Call) (calls : List Call) (s : σ) :
    c.afterAll (call :: calls) s =
      ((c.perform call).run s).1.2.afterAll calls ((c.perform call).run s).2 := rfl

/-- The elements that were given and those that are left are those that were left before, in the
same order, whichever calls were made and whatever the predicate answered. -/
theorem elements_append_rest (c : Cursor σ α) (calls : List Call) (s : σ) :
    elements (c.answers calls s) ++ (c.afterAll calls s).1.rest = c.rest := by
  induction calls generalizing c s with
  | nil => rfl
  | cons call calls ih =>
    have step := (c.step_perform call s).elements_append_rest
    have later := ih ((c.perform call).run s).1.2 ((c.perform call).run s).2
    rw [answers_cons, afterAll_cons, elements_cons, List.append_assoc, later, step]

/-- **Mixed calls give the elements in order.** Let an iteration over a set begin, let some calls be
made on it, whichever they are and whatever the predicate answers, and let another one follow. The
elements that were given by then are the first ones of the set, in order, and the others are left.
The call tells truthfully whether an element is left; it leaves the iteration where it is unless it
gives an element; it is past the end exactly if it asks for an element, the predicate says yes, and
all elements were given; and the predicate said yes last if the call gives an element or tells
whether one is left. -/
theorem calls_give_elements_in_order {set : FrozenSet σ α} {c : Cursor σ α} {s₀ s : σ}
    (started : set.iter.run.run s₀ = (.ok c, s)) (calls : List Call) (call : Call) :
    let given := elements (c.answers calls s)
    let here := (c.afterAll calls s).1
    let now := (c.afterAll calls s).2
    let answer := ((here.perform call).run now).1.1
    let after := ((here.perform call).run now).1.2
    let later := ((here.perform call).run now).2
    let made := here.evaluations call now
    (here.recorded.perform call).run (now, []) = ((answer, after.recorded), (later, made)) ∧
      (∀ (k : Nat) (item : α), given[k]? = some item → set.items[k]? = some item) ∧
      given ++ here.rest = set.items ∧
      (∀ more, answer = .hasMore (.ok more) → (more = true ↔ given.length < set.items.length)) ∧
      (answer.element? = none → after.rest = here.rest) ∧
      (answer = .tryNext (.error .outOfRange) ↔
        call = .tryNext ∧ made = [true] ∧ given.length = set.items.length) ∧
      (answer.element? ≠ none ∨ (∃ more, answer = .hasMore (.ok more)) →
        made.getLast? = some true) := by
  intro given here now answer after later made
  have whole : given ++ here.rest = set.items := by
    rw [FrozenSet.run_iter] at started
    obtain ⟨began, -⟩ := Prod.mk.inj started
    split at began
    · cases began
      exact elements_append_rest _ calls s
    · cases began
  have step : Step here call made answer after := step_perform here call now
  have length : given.length + here.rest.length = set.items.length := by
    rw [← whole, List.length_append]
  refine ⟨run_perform_recorded here call now, fun k item at_k => ?_, whole, fun more told => ?_,
    fun none => ?_, ?_, step.getLast?_eq⟩
  · rw [← whole, List.getElem?_append_left (List.getElem?_eq_some_iff.mp at_k).1, at_k]
  · rw [told] at step
    rw [step.eq_isEmpty, Bool.not_eq_true', List.isEmpty_eq_false_iff, ← List.length_pos_iff]
    omega
  · have kept := step.elements_append_rest
    rwa [none] at kept
  · have ended : here.rest = [] ↔ given.length = set.items.length := by
      rw [← List.length_eq_zero_iff]
      omega
    rw [step.outOfRange_iff, ended]

/-- Two elements are given by different calls, with a refused call and one that is not supported
between them; the iteration is then past its end. -/
theorem calls_give_elements_in_order_two :
    let set : FrozenSet (List Bool) String := .guarded ["a", "b", "a"] inTurn
    let c : Cursor (List Bool) String := ⟨["a", "b"], inTurn, false⟩
    let s := [true, true, false, true, true]
    let calls : List Call := [.next, .tryNext, .remove, .tryNext]
    set.iter.run.run (true :: s) = (.ok c, s) ∧
      elements (c.answers calls s) = ["a", "b"] ∧
      (c.afterAll calls s).1.rest = [] ∧
      (((c.afterAll calls s).1.perform .tryNext).run (c.afterAll calls s).2).1.1 =
        .tryNext (.error .outOfRange) := by
  intro set c s calls
  have started : set.iter.run.run (true :: s) = (.ok c, s) := rfl
  have given : elements (c.answers calls s) = ["a", "b"] := by decide
  obtain ⟨-, -, whole, -, -, past, -⟩ := calls_give_elements_in_order started calls .tryNext
  refine ⟨started, given, ?_, past.mpr ⟨rfl, rfl, ?_⟩⟩
  · rw [given] at whole
    exact List.append_cancel_left (whole.trans (List.append_nil _).symm)
  · rw [given]
    rfl

end Licensing.Cursor
