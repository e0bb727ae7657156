import Licensing.License.FeatureSeal
import Licensing.Proofs.FrozenSet.Trusted
import Licensing.Proofs.License.TextForm

/-!
# Seals always agree

The digest that was taken of features when they were put in place is that of the features at every
read. So reads of the features of licenses under their seals give what reads of sets give that no
one but their owner watches, and the text form never shows a license that was tampered with.

## Main results

* `FeatureSeal.run_isValid` — a seal answers the same each time.
* `FeatureSeal.trusted_isValid` — the seal of features answers yes.
* `License.run_read_sealedSet`, `License.run_display` — features are read and shown as they are.
-/

namespace Licensing

variable {σ β : Type}

/-! ### Seals -/

namespace FeatureSeal

/-- Whatever the features and the digest are, they are compared the first time only, and each answer
is what came of this. -/
theorem run_isValid (s : FeatureSeal) (known : Option Bool) :
    s.isValid.run known = (known.getD s.holds, some (known.getD s.holds)) := by
  cases known <;> rfl

/-- The digest that was taken of features is that of the features. -/
theorem holds_ofFeatures (features : List Feature) : (ofFeatures features).holds = true :=
  beq_self_eq_true _

/-- The seal of features answers yes, unless it is said to have answered no. -/
theorem trusted_isValid (features : List Feature) :
    Trusted (· ≠ some false) (ofFeatures features).isValid := by
  intro known unbroken
  rw [run_isValid, holds_ofFeatures]
  rcases known with _ | _ | _ <;> simp at unbroken ⊢

end FeatureSeal

/-! ### Features under their seals -/

namespace TextForm

theorem run_showNames_succ (steps : Nat) (before : List Char) (c : Cursor σ Feature) (s : σ) :
    (showNames (steps + 1) before c).run s =
      match c.next.run s with
      | ((none, _), s') => ([], s')
      | ((some (.error _), _), s') => ("<tampered>".toList, s')
      | ((some (.ok f), after), s') =>
        (before ++ f.name.toList ++ ((showNames steps [',', ' '] after).run s').1,
          ((showNames steps [',', ' '] after).run s').2) := by
  rw [showNames, StateT.run_bind]
  rcases c.next.run s with ⟨⟨_ | _ | _, after⟩, s'⟩ <;> rfl

/-- Features that can be trusted are shown by their names, with a text before the first one. -/
theorem run_showNames {p : σ → Prop} {alive : StateM σ Bool} (trusted : Trusted p alive)
    (features : List Feature) (before : List Char) {s : σ} (hs : p s) :
    ((showNames (features.length + 1) before ⟨features, alive, false⟩).run s).1 =
      if features = [] then [] else before ++ joinNames (features.map (·.name.toList)) := by
  induction features generalizing before s with
  | nil =>
    obtain ⟨yes, -⟩ := trusted s hs
    rw [run_showNames_succ, Cursor.run_next]
    simp [yes]
  | cons f rest ih =>
    obtain ⟨yes, kept⟩ := trusted s hs
    obtain ⟨taken, kept'⟩ := trusted _ kept
    have others := ih [',', ' '] kept'
    rw [run_showNames_succ, Cursor.run_next]
    simp only [Bool.false_eq_true, if_false, yes, taken, if_true, Bool.true_eq_false,
      List.length_cons, others]
    cases rest with
    | nil => simp [joinNames]
    | cons next rest => simp [joinNames_cons_cons]

theorem run_showFeatures {p : σ → Prop} {set : FrozenSet σ Feature} (trusted : Trusted p set.alive)
    {s : σ} (hs : p s) :
    ((showFeatures set).run s).1 = joinNames (set.items.map (·.name.toList)) := by
  obtain ⟨yes, kept⟩ := trusted s hs
  rw [showFeatures, StateT.run_bind, FrozenSet.run_iter, yes]
  refine (run_showNames trusted set.items [] kept).trans ?_
  cases set.items with
  | nil => rfl
  | cons f rest => rfl

end TextForm

namespace License

/-- **Features are read as they are.** Every read of the features of two licenses, each under its
own seal, gives what it gives of sets that no one but their owner watches, whatever was read before,
and leaves the seals unbroken. -/
theorem run_read_sealedSet (l m : License) (read : FrozenSet.Read Feature β)
    {known known' : Option Bool} (hl : known ≠ some false) (hm : known' ≠ some false) :
    let s : FrozenSet (Option Bool × Option Bool) Feature :=
      ⟨l.features, onFirst l.sealedSet.alive⟩
    let t : FrozenSet (Option Bool × Option Bool) Feature :=
      ⟨m.features, onSecond m.sealedSet.alive⟩
    let after := (read.perform s t).run.run (known, known')
    after.1 = ((read.perform (l.featureSet (σ := Unit)) m.featureSet).run.run ()).1 ∧
      after.2.1 ≠ some false ∧ after.2.2 ≠ some false := by
  intro s t
  have plain : Trusted (fun _ : Unit => True) (Pure.pure true) := fun _ _ => ⟨rfl, trivial⟩
  have hs : Trusted _ s.alive := (FeatureSeal.trusted_isValid l.features).onFirst (· ≠ some false)
  have ht : Trusted _ t.alive := (FeatureSeal.trusted_isValid m.features).onSecond (· ≠ some false)
  obtain ⟨given, unbroken⟩ := read.gives hs ht (known, known') ⟨hl, hm⟩
  have same := (read.gives (s := l.featureSet) (t := m.featureSet) plain plain () trivial).1
  exact ⟨given.trans same.symm, unbroken⟩

/-- The text form as it is written is the text form. -/
theorem run_display (l : License) {known : Option Bool} (unbroken : known ≠ some false) :
    (l.display.run known).1 = l.toText := by
  have names : ((TextForm.showFeatures l.sealedSet).run known).1 =
      TextForm.joinNames (l.features.map (·.name.toList)) :=
    TextForm.run_showFeatures (p := (· ≠ some false)) (FeatureSeal.trusted_isValid _) unbroken
  change String.ofList ((l.textFields.dropLast ++
    [((TextForm.showFeatures l.sealedSet).run known).1]).flatMap TextForm.enclose) = _
  rw [names]
  rfl

end License

end Licensing
