import Licensing.Proofs.FrozenSet.Asking

/-!
# Reads fail closed

A read asks the predicates of the sets that it reads, in an order. It fails exactly if one of all
these answers is no, and that answer is the last one; if there is none, it gives what the lists of
elements give.

## Main definitions

* `FailsClosed` — a computation fails exactly at an answer no, and otherwise has a value.
* `FrozenSet.Read.evaluations`, `FrozenSet.sameEvaluations` — what the predicates answer during a
  read, and while two sets are compared.

## Main results

* `Asks.failsClosed` — what asks in an order fails closed.
* `FrozenSet.Read.failsClosed` — every read fails closed.
* `FrozenSet.reads_fail_closed` — when reads fail and what they give.
-/

namespace Licensing

variable {σ α β : Type}

/-! ### Computations that fail closed -/

/-- How a computation with a value ends, by the answers that it was given. -/
inductive EndsAtRefusal (value : β) : List Bool → Except Error β → Prop
  | trusted {answers : List Bool} (yes : false ∉ answers) : EndsAtRefusal value answers (.ok value)
  | tampered {earlier : List Bool} (yes : false ∉ earlier) :
      EndsAtRefusal value (earlier ++ [false]) (.error .tamperDetected)

/-- A computation fails exactly at an answer no, and has a value if there is none. It is given
twice, with and without a record of the answers, and the record changes nothing. -/
def FailsClosed (plain : Action σ β) (noted : Action (σ × List Bool) β) (value : β) : Prop :=
  ∀ (s : σ) (record : List Bool), ∃ answers,
    noted.run.run (s, record) =
        ((plain.run.run s).1, ((plain.run.run s).2, record ++ answers)) ∧
      EndsAtRefusal value answers (plain.run.run s).1

/-- A computation fails if and only if one answer is no, this one is the last, and it has its value
if there is none. -/
theorem EndsAtRefusal.spec {value : β} {answers : List Bool} {result : Except Error β}
    (h : EndsAtRefusal value answers result) :
    (result = .error .tamperDetected ↔ false ∈ answers) ∧
      (false ∈ answers → ∃ earlier, answers = earlier ++ [false] ∧ false ∉ earlier) ∧
      (false ∉ answers → result = .ok value) := by
  cases h with
  | trusted yes => simp [yes]
  | @tampered earlier yes => exact ⟨by simp, fun _ => ⟨earlier, rfl, yes⟩, by simp⟩

/-- What asks in an order ends at an answer no, if the answers themselves are noted. -/
theorem AsksUntilRefused.endsAtRefusal {value : β} {order : List (Bool → Bool)}
    {answers : List Bool} {result : Except Error β}
    (h : AsksUntilRefused value order answers result) (own : ∀ note ∈ order, note = id) :
    EndsAtRefusal value answers result := by
  have yes {notes : List (Bool → Bool)} (own : ∀ note ∈ notes, note = id) :
      false ∉ notes.map (· true) := by
    intro no
    obtain ⟨note, mem, refused⟩ := List.mem_map.mp no
    rw [own note mem] at refused
    cases refused
  cases h with
  | trusted => exact .trusted (yes own)
  | @tampered earlier later note place =>
    have last : note = id := own note (by simp [place])
    rw [last]
    exact .tampered (yes fun note mem => own note (by simp [place, mem]))

/-- What asks in an order fails closed. -/
theorem Asks.failsClosed {plain : Action σ β} {noted : Action (σ × List Bool) β} {value : β}
    {order : List (Bool → Bool)} (h : Asks plain noted value order)
    (own : ∀ note ∈ order, note = id) : FailsClosed plain noted value := by
  intro s record
  obtain ⟨answers, recorded, ends⟩ := h s record
  exact ⟨answers, recorded, ends.endsAtRefusal own⟩

/-! ### Reads -/

namespace FrozenSet

variable [BEq α]

/-- What the predicates of two sets answer during a read that begins in a state. -/
def Read.evaluations (read : Read α β) (s t : FrozenSet σ α) (x : σ) : List Bool :=
  ((read.perform s.recorded t.recorded).run.run (x, [])).2.2

/-- What the predicates of two sets answer while the sets are compared, sets that cannot be trusted
being equal to none. -/
def sameEvaluations (s t : FrozenSet σ α) (x : σ) : List Bool :=
  ((s.recorded.same t.recorded).run (x, [])).2.2

theorem run_same (s t : FrozenSet σ α) (x : σ) :
    (s.same t).run x =
      (match ((s.setEq t).run.run x).1 with
        | .ok answer => answer
        | .error _ => false,
        ((s.setEq t).run.run x).2) := by
  rw [same, StateT.run_bind]
  rcases (s.setEq t).run.run x with ⟨_ | _, _⟩ <;> rfl

theorem sameEvaluations_eq (s t : FrozenSet σ α) (x : σ) :
    sameEvaluations s t x = Read.setEq.evaluations s t x := by
  rw [sameEvaluations, run_same]
  rfl

/-- Every read fails closed. -/
theorem Read.failsClosed (s t : FrozenSet σ α) (read : Read α β) :
    FailsClosed (read.perform s t) (read.perform s.recorded t.recorded)
      (read.ofLists s.items t.items) := by
  refine (read.asks s t id id).failsClosed fun note mem => ?_
  -- whoever is asked, the note is the answer
  rw [← read.map_order (fun _ : Unit => id) () ()] at mem
  obtain ⟨-, -, own⟩ := List.mem_map.mp mem
  exact own.symm

/-- A read puts on record what the predicates answer, and ends at an answer no. -/
theorem Read.evaluations_spec (s t : FrozenSet σ α) (x : σ) (read : Read α β) :
    (read.perform s.recorded t.recorded).run.run (x, []) =
        (((read.perform s t).run.run x).1,
          (((read.perform s t).run.run x).2, read.evaluations s t x)) ∧
      EndsAtRefusal (read.ofLists s.items t.items) (read.evaluations s t x)
        ((read.perform s t).run.run x).1 := by
  obtain ⟨answers, noted, ends⟩ := read.failsClosed s t x []
  have made : read.evaluations s t x = answers := by
    rw [Read.evaluations, noted, List.nil_append]
  rw [made]
  exact ⟨noted, ends⟩

variable [PartialEquivBEq α]

/-- A set keeps the first of equal items, so that no two of its elements are equal. -/
theorem distinct_guarded (items : List α) (alive : StateM σ Bool) :
    Distinct (guarded items alive).items :=
  distinct_eraseDups items

/-- **Reads fail closed.** A read of two sets, each watched by a predicate of its own that may do
whatever it likes, fails if and only if one of the predicates answers no while the sets are read.
That answer is the last one, and if there is none, the read gives what it gives of the lists of
elements. Sets are not equal if a predicate answers no while they are compared, and otherwise are
equal if and only if they have the same elements, since no set has two equal ones. -/
theorem reads_fail_closed (s t : FrozenSet σ α) (x : σ) :
    (∀ {β : Type} (read : Read α β),
      let result := ((read.perform s t).run.run x).1
      let later := ((read.perform s t).run.run x).2
      let made := read.evaluations s t x
      (read.perform s.recorded t.recorded).run.run (x, []) = (result, (later, made)) ∧
        (result = .error .tamperDetected ↔ false ∈ made) ∧
        (false ∈ made → ∃ earlier, made = earlier ++ [false] ∧ false ∉ earlier) ∧
        (false ∉ made → result = .ok (read.ofLists s.items t.items))) ∧
      (let made := sameEvaluations s t x
      (false ∈ made → ((s.same t).run x).1 = false) ∧
        (false ∉ made → ((s.same t).run x).1 = Read.setEq.ofLists s.items t.items)) ∧
      (Distinct s.items → Distinct t.items →
        Read.setEq.ofLists s.items t.items = sameItems s.items t.items) := by
  have spec {β : Type} (read : Read α β) := read.evaluations_spec s t x
  refine ⟨fun read => ⟨(spec read).1, (spec read).2.spec⟩, ?_,
    fun hs ht => (sameItems_eq hs ht).symm⟩
  obtain ⟨failed, -, gave⟩ := (spec Read.setEq).2.spec
  rw [sameEvaluations_eq, run_same]
  refine ⟨fun no => ?_, fun yes => ?_⟩
  · have result : ((s.setEq t).run.run x).1 = .error .tamperDetected := failed.mpr no
    rw [result]
  · have result : ((s.setEq t).run.run x).1 = .ok (Read.setEq.ofLists s.items t.items) := gave yes
    rw [result]

/-- Two sets of the same elements whose predicates give their answers in turn: the ninth answer is
asked for when an element of the one is looked for in the other, and is no. Without it the sets are
the same. -/
theorem reads_fail_closed_two :
    let s : FrozenSet (List Bool) String := .guarded ["a", "b", "a"] Cursor.inTurn
    let t : FrozenSet (List Bool) String := .guarded ["b", "a"] Cursor.inTurn
    let answers := [true, true, true, true, true, true, true, true, false]
    Distinct s.items ∧ Distinct t.items ∧
      Read.setEq.evaluations s t answers = answers ∧
      ((Read.setEq.perform s t).run.run answers).1 = .error .tamperDetected ∧
      ((s.same t).run answers).1 = false ∧
      ((s.same t).run []).1 = true := by
  intro s t answers
  have hs : Distinct s.items := distinct_guarded ["a", "b", "a"] Cursor.inTurn
  have ht : Distinct t.items := distinct_guarded ["b", "a"] Cursor.inTurn
  have made : Read.setEq.evaluations s t answers = answers := by decide
  obtain ⟨reads, ⟨refused, -⟩, -⟩ := reads_fail_closed s t answers
  obtain ⟨-, ⟨-, compared⟩, lists⟩ := reads_fail_closed s t []
  refine ⟨hs, ht, made, (reads Read.setEq).2.1.mpr ?_, refused ?_, ?_⟩
  · rw [made]
    decide
  · rw [sameEvaluations_eq, made]
    decide
  · rw [compared (by decide), lists hs ht]
    decide

end FrozenSet

end Licensing
