import Licensing.License.TextForm

/-!
# Seals over features

The features of a license stand under a seal, which holds the digest that was taken of them when
they were put in place. The seal is the predicate that is asked before every read of the features:
the first time it compares the digest with that of the features, and what came of this is its answer
ever after.

## Main definitions

* `FeatureSeal` — features and the digest that was taken of them.
* `FeatureSeal.isValid` — the predicate of a seal.
* `License.sealedSet` — the features of a license as a set that their seal watches.
* `License.display` — the text form of a license, written by an iteration over this set.

## Implementation notes

The state of a seal is what came of the comparison, once it was made.
-/

namespace Licensing

/-- Features and the digest that was taken of them. -/
structure FeatureSeal where
  features : List Feature
  digest : Bytes

namespace FeatureSeal

/-- The seal of features that are put in place. -/
def ofFeatures (features : List Feature) : FeatureSeal :=
  ⟨features, Feature.digestOf features⟩

/-- The features have the digest. -/
def holds (s : FeatureSeal) : Bool :=
  Feature.digestOf s.features == s.digest

/-- Whether the features have the digest, which is found out once. -/
def isValid (s : FeatureSeal) : StateM (Option Bool) Bool := do
  match ← get with
  | some known => return known
  | none =>
    set (some s.holds)
    return s.holds

end FeatureSeal

variable {σ : Type}

namespace TextForm

/-- What up to `steps` calls of `next` give, as names, of which the first one has a given text
before it and the others a comma and a space. An error ends them. -/
def showNames : (steps : Nat) → (before : List Char) → Cursor σ Feature → StateM σ (List Char)
  | 0, _, _ => return []
  | steps + 1, before, c => do
    match ← c.next with
    | (none, _) => return []
    | (some (.error _), _) => return "<tampered>".toList
    | (some (.ok f), after) =>
      let others ← showNames steps [',', ' '] after
      return before ++ f.name.toList ++ others

/-- The names of a set of features. -/
def showFeatures (set : FrozenSet σ Feature) : StateM σ (List Char) := do
  match ← set.iter.run with
  | .error _ => return "<tampered>".toList
  | .ok c => showNames (c.rest.length + 1) [] c

end TextForm

namespace License

/-- The features as a set that their seal watches. -/
def sealedSet (l : License) : FrozenSet (Option Bool) Feature :=
  ⟨l.features, (FeatureSeal.ofFeatures l.features).isValid⟩

/-- The text form as it is written, the names of the features by an iteration. -/
def display (l : License) : StateM (Option Bool) String := do
  let names ← TextForm.showFeatures l.sealedSet
  return String.ofList ((l.textFields.dropLast ++ [names]).flatMap TextForm.enclose)

end License

end Licensing
