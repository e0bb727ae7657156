import Licensing.License.Basic
import Licensing.Proofs.FrozenSet

/-!
# Equality of licenses

## Main definitions

* `License.ScalarsAgree` — two licenses have the same values but for their features.

## Main results

* `License.equals_iff` — two licenses are equal if and only if their other values are, they have
  equally many features, and the features of the one are among those of the other.
-/

namespace Licensing.License

/-- Two licenses have the same values but for their features. -/
structure ScalarsAgree (a b : License) : Prop where
  productKey : a.productKey = b.productKey
  holder : a.holder = b.holder
  issuer : a.issuer = b.issuer
  subject : a.subject = b.subject
  issueDate : a.issueDate = b.issueDate
  goodAfterDate : a.goodAfterDate = b.goodAfterDate
  goodBeforeDate : a.goodBeforeDate = b.goodBeforeDate
  seats : a.seats = b.seats

theorem ScalarsAgree.refl (l : License) : l.ScalarsAgree l :=
  ⟨rfl, rfl, rfl, rfl, rfl, rfl, rfl, rfl⟩

theorem ScalarsAgree.symm {a b : License} (h : a.ScalarsAgree b) : b.ScalarsAgree a :=
  ⟨h.productKey.symm, h.holder.symm, h.issuer.symm, h.subject.symm, h.issueDate.symm,
    h.goodAfterDate.symm, h.goodBeforeDate.symm, h.seats.symm⟩

theorem ScalarsAgree.trans {a b c : License} (h : a.ScalarsAgree b) (h' : b.ScalarsAgree c) :
    a.ScalarsAgree c :=
  ⟨h.productKey.trans h'.productKey, h.holder.trans h'.holder, h.issuer.trans h'.issuer,
    h.subject.trans h'.subject, h.issueDate.trans h'.issueDate,
    h.goodAfterDate.trans h'.goodAfterDate, h.goodBeforeDate.trans h'.goodBeforeDate,
    h.seats.trans h'.seats⟩

theorem sameScalars_iff {a b : License} : a.sameScalars b = true ↔ a.ScalarsAgree b := by
  simp only [sameScalars, Bool.and_eq_true, beq_iff_eq]
  constructor
  · rintro ⟨⟨⟨⟨⟨⟨⟨key, holder⟩, issuer⟩, subject⟩, issue⟩, after⟩, before⟩, seats⟩
    exact ⟨key, holder, issuer, subject, issue, after, before, seats⟩
  · rintro ⟨key, holder, issuer, subject, issue, after, before, seats⟩
    exact ⟨⟨⟨⟨⟨⟨⟨key, holder⟩, issuer⟩, subject⟩, issue⟩, after⟩, before⟩, seats⟩

/-- Features are compared by their number, and then by looking for each of the one license among
those of the other. -/
theorem sameFeatures_iff {a b : License} :
    a.sameFeatures b = true ↔ a.features.length = b.features.length ∧ a.features ⊆ b.features := by
  have same : a.sameFeatures b =
      (decide (a.features.length = b.features.length) &&
        a.features.all fun f => b.features.any (· == f)) := by
    rw [sameFeatures, featureSet, featureSet, FrozenSet.same_ofDistinct]
    rfl
  rw [same, Bool.and_eq_true, decide_eq_true_eq, List.all_eq_true]
  simp only [List.any_beq', List.contains_iff_mem]
  rfl

/-- Two licenses are equal if and only if their other values are, they have equally many features,
and the features of the one are among those of the other. -/
theorem equals_iff {a b : License} :
    a.equals b = true ↔
      a.ScalarsAgree b ∧ a.features.length = b.features.length ∧ a.features ⊆ b.features := by
  rw [equals, Bool.and_eq_true, sameScalars_iff, sameFeatures_iff]

/-- A license is equal to itself. -/
@[simp] theorem equals_self (l : License) : l.equals l = true :=
  equals_iff.mpr ⟨.refl l, rfl, List.Subset.refl _⟩

end Licensing.License
