import Licensing.License.Restriction
import Licensing.License.Validity
import Licensing.Proofs.License.WellFormed

/-!
# Which features a license covers

A license covers the name of a feature that it has and that has not ended. Since no two of its
features share a name, the search for the first feature of a name finds the only one.

## Main definitions

* `License.query` — one query for both operands.
* `License.Lacks` — a name of which a license has no feature, or one that has ended.

## Main results

* `Feature.isExpiredAt_eq_false_iff` — when a feature has not ended.
* `License.WellFormed.covers_iff` — which names a license covers.
* `License.WellFormed.covers_eq_false_iff` — which names it lacks.
-/

namespace Licensing

/-- A feature has not ended if it never does or if it does so later. -/
theorem Feature.isExpiredAt_eq_false_iff {f : Feature} {now : Int64} :
    f.isExpiredAt now = false ↔ f.neverExpires = true ∨ now < f.expiry := by
  rw [isExpiredAt, Bool.and_eq_false_iff, Bool.not_eq_false', decide_eq_false_iff_not,
    Int64.not_le]

namespace License

/-- The query of an operand: whether a license covers all of some names, or one of them. -/
def query (l : License) : Operand → Int64 → List String → Bool
  | .all => l.coversAll
  | .any => l.coversAny

/-- A license has no feature of a name, or the one that it has has ended. -/
inductive Lacks (l : License) (now : Int64) (name : String) : Prop where
  | absent (absent : ∀ f ∈ l.features, f.name ≠ name)
  | expired (f : Feature) (mem : f ∈ l.features) (called : f.name = name)
      (ends : f.expiry ≠ Feature.never) (ended : f.expiry ≤ now)

variable {l : License}

/-- The search for a name finds the feature that is called so. -/
theorem WellFormed.feature?_eq_some_iff (h : l.WellFormed) {name : String} {f : Feature} :
    l.feature? name = some f ↔ f ∈ l.features ∧ f.name = name := by
  constructor
  · intro found
    exact ⟨List.mem_of_find?_eq_some found, by simpa using List.find?_some found⟩
  · rintro ⟨mem, rfl⟩
    obtain ⟨g, found⟩ : ∃ g, l.feature? f.name = some g :=
      Option.isSome_iff_exists.mp (List.find?_isSome.mpr ⟨f, mem, beq_self_eq_true _⟩)
    have called : g.name = f.name := by simpa using List.find?_some found
    rw [found, List.inj_on_of_nodup_map h.distinct (List.mem_of_find?_eq_some found) mem called]

/-- A license covers a name if and only if it has a feature that is called so and has not ended. -/
theorem WellFormed.covers_iff (h : l.WellFormed) {now : Int64} {name : String} :
    l.covers now name = true ↔
      ∃ f ∈ l.features, f.name = name ∧ f.isExpiredAt now = false := by
  simp only [covers, Option.any_eq_true, h.feature?_eq_some_iff, Bool.not_eq_true', and_assoc]

/-- A license lacks the names that it does not cover. -/
theorem WellFormed.covers_eq_false_iff (h : l.WellFormed) {now : Int64} {name : String} :
    l.covers now name = false ↔ l.Lacks now name := by
  rw [← Bool.not_eq_true, h.covers_iff]
  constructor
  · intro uncovered
    by_cases absent : ∀ f ∈ l.features, f.name ≠ name
    · exact .absent absent
    · push Not at absent
      obtain ⟨f, mem, called⟩ := absent
      have past : f.isExpiredAt now ≠ false := fun live => uncovered ⟨f, mem, called, live⟩
      rw [Ne, Feature.isExpiredAt_eq_false_iff, not_or, Int64.not_lt] at past
      exact .expired f mem called (fun never => past.1 (beq_iff_eq.mpr never)) past.2
  · rintro (absent | ⟨f, mem, called, ends, ended⟩) ⟨g, found, named, live⟩
    · exact absent g found named
    · -- No other feature is called like the one that has ended.
      obtain rfl := List.inj_on_of_nodup_map h.distinct found mem (named.trans called.symm)
      rcases Feature.isExpiredAt_eq_false_iff.mp live with never | later
      · exact ends (beq_iff_eq.mp never)
      · exact Int64.not_lt.mpr ended later

end License

end Licensing
