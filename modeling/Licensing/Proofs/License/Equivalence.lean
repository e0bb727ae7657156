import Licensing.Proofs.License.Equality
import Licensing.Proofs.License.Obtained

/-!
# Equality of licenses is an equivalence

Features are compared in one direction only: as many on either side, and each of the left ones among
the right ones. That this does not depend on the sides rests on the making of licenses, which lets
no feature in twice; a license that grants one feature twice would be equal to one that grants it
once, beside another one, and not the other way round.

## Main results

* `License.WellFormed.equals_iff` — a well-formed license is equal to another one if and only if the
  other values agree and the features are the same up to their order.
* `License.equals_iff_perm` — equality of the licenses that can be had, and of sets in general.
-/

namespace Licensing.License

/-- A well-formed license has no feature twice. -/
theorem WellFormed.nodup_features {l : License} (h : l.WellFormed) : l.features.Nodup :=
  h.distinct.of_map _

/-- As many features on either side, of which the left ones are distinct and among the right ones,
are the same up to their order. -/
theorem WellFormed.equals_iff {a b : License} (h : a.WellFormed) :
    a.equals b = true ↔ a.ScalarsAgree b ∧ a.features.Perm b.features := by
  rw [License.equals_iff, and_congr_right_iff]
  intro _
  constructor
  · rintro ⟨equal, sub⟩
    exact (h.nodup_features.subperm sub).perm_of_length_le equal.ge
  · intro perm
    exact ⟨perm.length_eq, perm.subset⟩

/-- **Equality of licenses.** Two licenses that can be had are equal if and only if all their values
are but the features, and the features of the one are those of the other in some order. This is an
equivalence among these licenses.

For items of any kind whose equality is symmetric and transitive, a set made of a list holds the
items that are equal to none before them, in order, and no two of these are equal. Two such sets are
the same if and only if each item of either list is equal to one of the other; where equal items are
the same, if and only if the lists have the same members. -/
theorem equals_iff_perm :
    (∀ {a b : License}, a.Obtained → b.Obtained →
      (a.equals b = true ↔ a.ScalarsAgree b ∧ a.features.Perm b.features)) ∧
    Equivalence (fun a b : { l : License // l.Obtained } => a.val.equals b.val = true) ∧
    ∀ {σ α : Type} [BEq α] [PartialEquivBEq α] (xs ys : List α),
      (FrozenSet.ofList xs : FrozenSet σ α).toList = pure (firsts xs) ∧ Distinct (firsts xs) ∧
      (FrozenSet.ofList xs : FrozenSet σ α).same (.ofList ys) = pure (sameItems xs ys) ∧
      ∀ [LawfulBEq α], sameItems xs ys = true ↔ ∀ x, x ∈ xs ↔ x ∈ ys := by
  have perm {a b : License} (ha : a.Obtained) :
      a.equals b = true ↔ a.ScalarsAgree b ∧ a.features.Perm b.features :=
    ha.wellFormed.equals_iff
  refine ⟨fun ha _ => perm ha, ⟨?refl, ?symm, ?trans⟩, fun xs ys => ⟨?_, ?_, ?_, ?_⟩⟩
  case refl =>
    exact fun a => equals_self a.val
  case symm =>
    intro a b equal
    obtain ⟨scalars, features⟩ := (perm a.property).mp equal
    exact (perm b.property).mpr ⟨scalars.symm, features.symm⟩
  case trans =>
    intro a b c equal equal'
    obtain ⟨scalars, features⟩ := (perm a.property).mp equal
    obtain ⟨scalars', features'⟩ := (perm b.property).mp equal'
    exact (perm a.property).mpr ⟨scalars.trans scalars', features.trans features'⟩
  · exact FrozenSet.toList_ofList xs
  · exact eraseDups_eq_firsts xs ▸ distinct_eraseDups xs
  · exact FrozenSet.same_ofList xs ys
  · exact sameItems_iff

/-- The license with a lasting feature and one that ends is equal to the one that was given the two
in the other order, and not to the one that has the lasting feature only. Lists that differ in order
and repetition make the same set. -/
theorem equals_iff_perm_specimen :
    let swapped : License := { specimen with features := specimen.features.reverse }
    let shorter : License := { specimen with features := [.lasting "export"] }
    let s : FrozenSet Unit String := .ofList ["b", "a", "b"]
    specimen.Obtained ∧ swapped.Obtained ∧ shorter.Obtained ∧ specimen.equals swapped = true ∧
      specimen.equals shorter = false ∧ s.toList = pure ["b", "a"] ∧
      s.same (.ofList ["a", "b"]) = pure true := by
  intro swapped shorter s
  have made : build swapped.allSettings = .ok swapped := by decide
  have made' : build shorter.allSettings = .ok shorter := by decide
  have had : specimen.Obtained := .built build_specimen
  obtain ⟨elements, -, same, -⟩ := equals_iff_perm.2.2 (σ := Unit) ["b", "a", "b"] ["a", "b"]
  refine ⟨had, .built made, .built made', ?_, ?_, elements, same⟩
  · refine (equals_iff_perm.1 had (.built made)).mpr ⟨by constructor <;> rfl, ?_⟩
    exact (List.reverse_perm specimen.features).symm
  · rw [← Bool.not_eq_true, equals_iff_perm.1 had (.built made')]
    rintro ⟨-, perm⟩
    exact absurd perm.length_eq (by decide)

end Licensing.License
