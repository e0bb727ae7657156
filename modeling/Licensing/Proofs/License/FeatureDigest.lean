import Licensing.License.Feature
import Licensing.Proofs.Bytes.Numbers
import Licensing.Proofs.Bytes.Text

/-!
# What the digest of a list of features commits to

The bytes that are digested have no count of the features and no mark between them. They can be cut
in one way only all the same: the length of a name stands before it, in eight bytes, and eight bytes
of an expiry follow it, so that the bytes of a feature tell where they end, and no byte can be
shifted from a name to an expiry or from one feature to the next.

## Main definitions

* `Feature.NameFits` — eight bytes can hold the length of the name.

## Main results

* `Feature.digestPart_append_inj` — a feature is cut off a byte string in one way only.
* `Feature.digestInput_injective` — different lists of features have different bytes to digest.
* `Feature.digestInput_eq_iff` — when two lists have the same bytes to digest, and which changes
  change them.
-/

namespace Licensing.Feature

/-- Eight bytes can hold the length of the name, as they can for every text that a computer of 64
bits has room for. -/
def NameFits (f : Feature) : Prop :=
  (Bytes.ofText f.name).length < 2 ^ 64

instance (f : Feature) : Decidable f.NameFits :=
  inferInstanceAs (Decidable (_ < _))

theorem digestInput_cons (f : Feature) (features : List Feature) :
    digestInput (f :: features) = f.digestPart ++ digestInput features :=
  List.flatMap_cons

/-- A feature takes up sixteen bytes at least. -/
theorem digestPart_ne_nil (f : Feature) : f.digestPart ≠ [] := by
  refine List.ne_nil_of_length_pos ?_
  simp only [digestPart, List.length_append, Bytes.length_bigEndian]
  omega

/-- A feature is cut off a byte string in one way only: the length of its name comes first and fixes
where the name and the expiry end. -/
theorem digestPart_append_inj {f g : Feature} (hf : f.NameFits) (hg : g.NameFits)
    {rest last : Bytes} :
    f.digestPart ++ rest = g.digestPart ++ last ↔ f = g ∧ rest = last := by
  have expiryFits (h : Feature) : h.expiry.toUInt64.toNat < 256 ^ 8 := h.expiry.toUInt64.toNat_lt
  constructor
  · intro eq
    simp only [digestPart, List.append_assoc] at eq
    obtain ⟨length, eq⟩ := (Bytes.bigEndian_append_inj hf hg).mp eq
    obtain ⟨name, eq⟩ := List.append_inj eq length
    obtain ⟨expiry, rest_eq⟩ := (Bytes.bigEndian_append_inj (expiryFits f) (expiryFits g)).mp eq
    obtain ⟨_, _⟩ := f
    obtain ⟨_, _⟩ := g
    obtain rfl := Bytes.ofText_injective name
    obtain rfl := Bytes.toNat_toUInt64_inj.mp expiry
    exact ⟨rfl, rest_eq⟩
  · rintro ⟨rfl, rfl⟩
    rfl

/-- Different lists of features have different bytes to digest. -/
theorem digestInput_injective {xs ys : List Feature} (hx : ∀ f ∈ xs, f.NameFits)
    (hy : ∀ f ∈ ys, f.NameFits) (eq : digestInput xs = digestInput ys) : xs = ys := by
  induction xs generalizing ys with
  | nil =>
    cases ys with
    | nil => rfl
    | cons g ys =>
      rw [digestInput_cons] at eq
      exact absurd (List.append_eq_nil_iff.mp eq.symm).1 g.digestPart_ne_nil
  | cons f xs ih =>
    cases ys with
    | nil =>
      rw [digestInput_cons] at eq
      exact absurd (List.append_eq_nil_iff.mp eq).1 f.digestPart_ne_nil
    | cons g ys =>
      obtain ⟨hf, hx⟩ := List.forall_mem_cons.mp hx
      obtain ⟨hg, hy⟩ := List.forall_mem_cons.mp hy
      rw [digestInput_cons, digestInput_cons, digestPart_append_inj hf hg] at eq
      rw [eq.1, ih hx hy eq.2]

/-- **Digests of features.** Two lists of features, of whatever lengths and with whatever names and
expiries, have the same bytes to digest if and only if they are the same list. So the bytes change
with the number of the features, with any name or expiry, and with the order of either. -/
theorem digestInput_eq_iff {xs ys : List Feature} (hx : ∀ f ∈ xs, f.NameFits)
    (hy : ∀ f ∈ ys, f.NameFits) :
    (digestInput xs = digestInput ys ↔ xs = ys) ∧
      (xs.length ≠ ys.length ∨ xs.map (·.name) ≠ ys.map (·.name) ∨
          xs.map (·.expiry) ≠ ys.map (·.expiry) →
        digestInput xs ≠ digestInput ys) := by
  have same : digestInput xs = digestInput ys ↔ xs = ys :=
    ⟨digestInput_injective hx hy, congrArg digestInput⟩
  refine ⟨same, fun changed eq => ?_⟩
  obtain rfl := same.mp eq
  simp at changed

/-- A name that holds the bytes of an expiry and of another feature is not taken for these. -/
theorem digestInput_eq_iff_shifted :
    let apart : List Feature := [⟨"a", 0⟩, ⟨"b", 0⟩]
    let joined : List Feature :=
      [⟨"a\x00\x00\x00\x00\x00\x00\x00\x00\x00\x00\x00\x00\x00\x00\x00\x01b", 0⟩]
    (∀ f ∈ apart, f.NameFits) ∧ (∀ f ∈ joined, f.NameFits) ∧
      digestInput apart ≠ digestInput joined ∧
      digestInput apart ≠ digestInput apart.reverse := by
  intro apart joined
  have ha : ∀ f ∈ apart, f.NameFits := by decide
  have hr : ∀ f ∈ apart.reverse, f.NameFits := by decide
  have hj : ∀ f ∈ joined, f.NameFits := by decide
  exact ⟨ha, hj, (digestInput_eq_iff ha hj).2 (.inl (by decide)),
    (digestInput_eq_iff ha hr).2 (.inr (.inl (by decide)))⟩

end Licensing.Feature
