import Licensing.Proofs.License.Coverage

/-!
# Restrictions and queries agree

The check of a restriction asks for one name after the other, or for all of them at once, and the
query of the same names asks for all of them at once. Both come to the same: the check succeeds when
the query answers yes. There is one exception, made on purpose: one of no names is never covered,
but a restriction that asks for one of no names is met.

## Main definitions

* `Restriction.IsFirst` — the first of some names that a license lacks.
* `Restriction.Concurs` — how the verdict on a restriction goes with the answer to the query.

## Main results

* `Restriction.missing?_eq_some_iff` — the missing name is the first one that is lacking.
* `Restriction.check_eq_ok_iff` — when a restriction is met.
* `Restriction.concurs_check` — the check of a license goes with its query.
* `Restriction.check_eq_ok_congr` — whether a restriction is met does not depend on how its names
  are ordered or repeated.
-/

namespace Licensing

variable {l : License} {now : Int64}

namespace Restriction

/-- A name is the first of some names that is lacking. -/
def IsFirst (lacks : String → Prop) (names : List String) (name : String) : Prop :=
  ∃ before after, names = before ++ name :: after ∧ (∀ other ∈ before, ¬ lacks other) ∧ lacks name

/-- The verdict on a restriction goes with the answer to the query of its names and its operand,
when a license lacks some names. -/
structure Concurs (r : Restriction) (lacks : String → Prop) (answer : Except Error Bool)
    (verdict : Except Error Unit) : Prop where
  /-- Both fail alike. -/
  failed : ∀ e, answer = .error e → verdict = .error e
  /-- A restriction is met when the answer is yes, or when it asks for one of no names. -/
  met : verdict = .ok () ↔ answer = .ok true ∨ answer = .ok false ∧ r.operand = .any ∧ r.names = []
  /-- Of all names, the first one that is lacking is reported. -/
  lacking : answer = .ok false → r.operand = .all →
    ∃ name, IsFirst lacks r.names name ∧ verdict = .error (.featureMissing name)
  /-- If one of the names is asked for, the first one is reported. -/
  refused : answer = .ok false → r.operand = .any →
    ∀ first rest, r.names = first :: rest → verdict = .error (.featureMissing first)

end Restriction

namespace License

@[simp] theorem coversAll_singleton {name : String} :
    l.coversAll now [name] = l.covers now name := by
  simp [coversAll]

/-- A query does not depend on how its names are ordered or repeated. -/
theorem query_congr {operand : Operand} {names others : List String}
    (same : ∀ name, name ∈ names ↔ name ∈ others) :
    l.query operand now names = l.query operand now others := by
  rw [Bool.eq_iff_iff]
  cases operand <;>
    simp only [query, coversAll, coversAny, List.all_eq_true, List.any_eq_true, same]

end License

namespace Restriction

variable {r : Restriction}

/-- No name is missing if and only if all are covered. -/
theorem missing?_eq_none_iff : r.missing? l now = none ↔ l.coversAll now r.names = true := by
  simp [missing?, License.coversAll]

/-- The missing name is the first one that is lacking. -/
theorem missing?_eq_some_iff (h : l.WellFormed) {name : String} :
    r.missing? l now = some name ↔ IsFirst (l.Lacks now) r.names name := by
  simp only [missing?, License.coversAll_singleton, List.find?_eq_some_iff_append,
    Bool.not_eq_true', Bool.not_not, IsFirst, ← h.covers_eq_false_iff, Bool.not_eq_false]
  exact ⟨fun ⟨lacking, before, after, names, covered⟩ => ⟨before, after, names, covered, lacking⟩,
    fun ⟨before, after, names, covered, lacking⟩ => ⟨lacking, before, after, names, covered⟩⟩

/-- If all names are asked for, a list of none is no case of its own. -/
theorem check_all (names : List String) :
    check ⟨names, .all⟩ l now =
      match missing? ⟨names, .all⟩ l now with
      | none => .ok ()
      | some name => .error (.featureMissing name) := by
  cases names <;> rfl

/-- A restriction is met if and only if the query of its names answers yes, or it asks for one of no
names. -/
theorem check_eq_ok_iff :
    r.check l now = .ok () ↔
      l.query r.operand now r.names = true ∨ r.operand = .any ∧ r.names = [] := by
  obtain ⟨names, operand⟩ := r
  cases operand with
  | all =>
    change _ ↔ l.coversAll now names = true ∨ _
    rw [check_all, ← missing?_eq_none_iff (r := ⟨names, .all⟩)]
    cases missing? ⟨names, .all⟩ l now <;> simp
  | any =>
    cases names with
    | nil => exact iff_of_true rfl (.inr ⟨rfl, rfl⟩)
    | cons first rest =>
      change (if l.coversAny now (first :: rest) then Except.ok () else _) = _ ↔ _
      simp [License.query]

/-- Whether a restriction is met does not depend on how its names are ordered or repeated. -/
theorem check_eq_ok_congr {other : Restriction} (operand : r.operand = other.operand)
    (names : ∀ name, name ∈ r.names ↔ name ∈ other.names) :
    r.check l now = .ok () ↔ other.check l now = .ok () := by
  have empty : r.names = [] ↔ other.names = [] := by
    simp only [List.eq_nil_iff_forall_not_mem, names]
  rw [check_eq_ok_iff, check_eq_ok_iff, License.query_congr names, operand, empty]

/-- The check of a license goes with its query. -/
theorem concurs_check (h : l.WellFormed) (r : Restriction) (now : Int64) :
    r.Concurs (l.Lacks now) (.ok (l.query r.operand now r.names)) (r.check l now) where
  failed := nofun
  met := by
    rw [check_eq_ok_iff]
    cases l.query r.operand now r.names <;> simp
  lacking no all := by
    obtain ⟨names, operand⟩ := r
    cases all
    have uncovered : l.coversAll now names = false := Except.ok.inj no
    rw [check_all]
    cases missing : missing? ⟨names, .all⟩ l now with
    | none =>
      rw [missing?_eq_none_iff.mp missing] at uncovered
      cases uncovered
    | some name => exact ⟨name, (missing?_eq_some_iff h).mp missing, rfl⟩
  refused no any first rest names := by
    obtain ⟨_, operand⟩ := r
    cases any
    cases names
    have uncovered : l.coversAny now (first :: rest) = false := Except.ok.inj no
    change (if l.coversAny now (first :: rest) then Except.ok () else _) = _
    rw [uncovered]
    rfl

end Restriction

end Licensing
