import Mathlib.Data.List.Basic

/-!
# Where lists are cut

## Main results

* `append_terminator_inj` — what ends at the first place of an element is cut there in one way only.
* `append_singleton_eq_iff` — an element that is picked out of a list is the last one or stands
  before it.
-/

namespace Licensing

variable {α : Type}

/-- What ends at the first place of an element is cut there in one way only. -/
theorem append_terminator_inj {terminator : α} {body other rest last : List α}
    (open_ : terminator ∉ body) (open' : terminator ∉ other) :
    body ++ terminator :: rest = other ++ terminator :: last ↔ body = other ∧ rest = last := by
  induction body generalizing other with
  | nil =>
    cases other with
    | nil => simp
    | cons d other =>
      have apart : terminator ≠ d := fun eq => open' (eq ▸ List.mem_cons_self)
      simp [apart]
  | cons c body ih =>
    have apart : terminator ≠ c := fun eq => open_ (eq ▸ List.mem_cons_self)
    cases other with
    | nil => simp [apart.symm]
    | cons d other =>
      simp only [List.cons_append, List.cons.injEq, and_assoc]
      rw [ih (fun mem => open_ (.tail _ mem)) fun mem => open' (.tail _ mem)]

/-- An element that is picked out of a list is the last one or stands before it. -/
theorem append_singleton_eq_iff {items before after : List α} {last item : α} :
    items ++ [last] = before ++ item :: after ↔
      (items = before ∧ last = item ∧ after = []) ∨
        ∃ others, after = others ++ [last] ∧ items = before ++ item :: others := by
  rcases List.eq_nil_or_concat' after with rfl | ⟨others, final, rfl⟩
  · simp
  · rw [← List.cons_append, ← List.append_assoc, List.append_singleton_inj]
    simp only [List.append_eq_nil_iff, List.cons_ne_self, and_false,
      false_or, List.append_singleton_inj]
    constructor
    · rintro ⟨rfl, rfl⟩
      exact ⟨others, ⟨rfl, rfl⟩, rfl⟩
    · rintro ⟨_, ⟨rfl, rfl⟩, rfl⟩
      exact ⟨rfl, rfl⟩

end Licensing
