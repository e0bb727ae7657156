import Licensing.Proofs.Issue
import Licensing.Proofs.License.Obtained
import Licensing.Proofs.License.Restriction

/-!
# Restrictions and queries of a manager

A manager looks up and checks the license in the same way for each of its questions. So the check of
a restriction and the query of the same names fail alike or speak of the same license, and then they
go together as they do for this license.

## Main definitions

* `Manager.Reachable` — the managers that there can be.
* `Manager.query` — one query for both operands.

## Main results

* `Manager.Reachable.wellFormed_of_get` — a license that a manager gives is well formed.
* `Manager.check_concurs_with_query` — restrictions and queries agree, for a license and for a
  manager.
-/

namespace Licensing

section Answers

variable {α β : Type} {a : Answer α} {f : α → Except Error β}

theorem Answer.result_andThen_of_ok {value : α} (h : a.result = .ok value) :
    (a.andThen f).result = f value := by
  rw [andThen, h]
  rfl

theorem Answer.result_andThen_of_error {e : Error} (h : a.result = .error e) :
    (a.andThen f).result = .error e := by
  rw [andThen, h]
  rfl

end Answers

namespace Manager

/-- The managers that there can be: made for a configuration, and then called, or given another
check of licenses, in whatever order. -/
inductive Reachable : Manager → Prop where
  | fresh (config : Config) (validator : Validator) : Reachable (fresh config validator)
  | called {m : Manager} (h : Reachable m) (c : Call) : Reachable (m.next c)
  | revised {m : Manager} (h : Reachable m) (validator : Validator) :
      Reachable (m.withValidator validator)

/-- The query of an operand: whether the license of a context covers all of some names, or one of
them. -/
def query (m : Manager) : Operand → Sources → Readings → (context : String) →
    (names : List String) → Answer Bool
  | .all => m.coversAll
  | .any => m.coversAny

variable {m : Manager} {sources : Sources} {t : Readings} {context : String}

/-! ### Licenses that are given -/

theorem wellFormed_of_load {l : License} (h : m.load sources context = .ok l) : l.WellFormed := by
  obtain ⟨_, -, _, -, -, _, -, opened⟩ := load_eq_ok_iff.mp h
  exact SignedLicense.wellFormed_of_unseal opened

/-- All that a manager keeps is well formed: each call keeps what was kept, or what it has opened.
-/
theorem Reachable.wellFormed_of_find? (h : m.Reachable) {e : CacheEntry}
    (found : m.cache.find? context = some e) : e.license.WellFormed := by
  induction h generalizing context e with
  | fresh config validator => cases found
  | @called m _ c ih =>
    rcases m.next_cases c with ⟨-, eq⟩ | ⟨opened, l, opens, eq⟩ | ⟨-, -, eq⟩ <;> rw [eq] at found
    · cases found
    · change Cache.find? (Cache.insert m.cache opened _) context = some e at found
      rw [Cache.find?_insert] at found
      split at found
      · cases found
        exact wellFormed_of_load opens.load_eq
      · exact ih found
    · exact ih found
  | revised _ validator ih => exact ih found

/-- A license that a manager gives is well formed. -/
theorem Reachable.wellFormed_of_get (h : m.Reachable) {now : Instant} {l : License}
    (given : (m.get sources now context).result = .ok l) : l.WellFormed := by
  rcases m.get_cases sources now context with
    ⟨_, kept, eq⟩ | ⟨_, -, opened, eq⟩ | ⟨_, -, -, eq⟩ <;> rw [eq] at given <;> cases given
  · obtain ⟨e, found, -, rfl⟩ := kept?_eq_some_iff.mp kept
    exact h.wellFormed_of_find? found
  · exact wellFormed_of_load opened

/-- A license that a manager gives and that passes its check is well formed. -/
theorem Reachable.wellFormed_of_validLicense (h : m.Reachable) {l : License}
    (given : (m.validLicense sources t context).result = .ok l) : l.WellFormed := by
  obtain ⟨_, got, passed⟩ := bind_eq_ok_iff.mp given
  obtain ⟨_, -, same⟩ := bind_eq_ok_iff.mp passed
  cases same
  exact h.wellFormed_of_get got

/-! ### Questions -/

/-- A query looks up and checks the license first. -/
theorem query_eq (m : Manager) (operand : Operand) (sources : Sources) (t : Readings)
    (context : String) (names : List String) :
    m.query operand sources t context names =
      (m.validLicense sources t context).andThen fun l =>
        .ok (l.query operand t.features.toDate names) := by
  cases operand <;> rfl

/-- What a restriction comes to for a manager does not depend on how its names are ordered or
repeated, as far as whether it is met. -/
theorem result_check_eq_ok_congr {r other : Restriction} (operand : r.operand = other.operand)
    (names : ∀ name, name ∈ r.names ↔ name ∈ other.names) :
    (m.check sources t context r).result = .ok () ↔
      (m.check sources t context other).result = .ok () := by
  simp only [check, Answer.andThen]
  cases (m.validLicense sources t context).result with
  | error e => exact Iff.rfl
  | ok l => exact Restriction.check_eq_ok_congr operand names

/-- **Restrictions and queries agree.** For a license that can be had, a restriction that asks for
all of some names is met if and only if the license covers all of them, and otherwise the first name
is reported that the license does not have or that has ended. A restriction that asks for one of
some names is met if and only if there are none or the license covers one, and otherwise the first
one is reported. For a manager, the check of a restriction leaves behind what the query of its names
leaves behind, fails as it does when the license cannot be looked up or does not pass the check, and
otherwise goes with it in the same way. Whether a restriction is met does not depend on how its
names are ordered or repeated. -/
theorem check_concurs_with_query :
    (∀ l : License, l.Obtained → ∀ (r : Restriction) (now : Int64),
      r.Concurs (l.Lacks now) (.ok (l.query r.operand now r.names)) (r.check l now)) ∧
    (∀ m : Manager, m.Reachable → ∀ sources t context (r : Restriction),
      let found := (m.validLicense sources t context).result
      let answer := m.query r.operand sources t context r.names
      let verdict := m.check sources t context r
      verdict.manager = answer.manager ∧ verdict.loads = answer.loads ∧
        (∀ e, found = .error e → answer.result = .error e ∧ verdict.result = .error e) ∧
        ∀ l, found = .ok l →
          r.Concurs (l.Lacks t.features.toDate) answer.result verdict.result) ∧
    ∀ r other : Restriction, r.operand = other.operand →
      (∀ name, name ∈ r.names ↔ name ∈ other.names) →
      (∀ l now, r.check l now = .ok () ↔ other.check l now = .ok ()) ∧
        ∀ m sources t context, (check m sources t context r).result = .ok () ↔
          (check m sources t context other).result = .ok () := by
  refine ⟨fun l had => Restriction.concurs_check had.wellFormed, ?_, ?_⟩
  · intro m reachable sources t context r found answer verdict
    have asked : answer = _ := m.query_eq r.operand sources t context r.names
    rw [asked]
    refine ⟨rfl, rfl, fun e failed => ?_, fun l given => ?_⟩
    · exact ⟨Answer.result_andThen_of_error failed, Answer.result_andThen_of_error failed⟩
    · have checked : verdict.result = r.check l t.features.toDate :=
        Answer.result_andThen_of_ok given
      rw [Answer.result_andThen_of_ok given, checked]
      exact Restriction.concurs_check (reachable.wellFormed_of_validLicense given) r _
  · intro r other operand names
    exact ⟨fun _ _ => Restriction.check_eq_ok_congr operand names,
      fun _ _ _ _ => result_check_eq_ok_congr operand names⟩

/-- A manager opens the license with a lasting feature and one that ends. The license has none of
the two features that are asked for, of which the first one is reported; with one more that it
covers, the restriction is met, in whatever order they come. -/
theorem check_concurs_with_query_specimen :
    let seed : Bytes := List.replicate 32 7
    let m := fresh (.standard "product" "store") Validator.dates
    let t := Readings.constant ⟨1700000000, 0⟩
    let asked : Restriction := ⟨["import", "print"], .any⟩
    License.specimen.Obtained ∧ asked.check License.specimen t.features.toDate = .ok () ∧
      m.Reachable ∧ ∃ s : SignedLicense,
        let sources : Sources := ⟨fun _ => .ok (some s), .ok (PublicKey.ofSeed seed).der⟩
        (m.validLicense sources t "a").result = .ok License.specimen ∧
          (m.check sources t "a" ⟨["import", "sell"], .any⟩).result =
            .error (.featureMissing "import") ∧
          (m.check sources t "a" ⟨["print", "import", "print"], .any⟩).result = .ok () := by
  intro seed m t asked
  have same (name : String) : name ∈ ["import", "print"] ↔ name ∈ ["print", "import", "print"] := by
    simp only [List.mem_cons, List.not_mem_nil]
    tauto
  have had : License.specimen.Obtained := .built License.build_specimen
  have reachable : m.Reachable := .fresh _ _
  obtain ⟨s, loads⟩ := exists_load_specimen m.config.passphrase (by decide)
  obtain ⟨licenses, managers, orders⟩ := check_concurs_with_query
  refine ⟨had, (licenses _ had asked _).met.mpr (.inl (by decide)), reachable, s, ?_⟩
  intro sources
  have opened : m.load sources "a" = .ok License.specimen := loads m sources "a" rfl rfl rfl
  have passes : m.validate t.validation License.specimen = .ok () := by decide
  have given : (m.validLicense sources t "a").result = .ok License.specimen := by
    rw [validLicense, Answer.result_andThen_of_ok (result_get_of_load rfl opened t.lookup), passes]
    rfl
  have concurs (r : Restriction) := (managers m reachable sources t "a" r).2.2.2 _ given
  have answered (names : List String) : (m.query .any sources t "a" names).result =
      .ok (License.specimen.coversAny t.features.toDate names) :=
    Answer.result_andThen_of_ok given
  refine ⟨given, ?_, ?_⟩
  · exact (concurs ⟨["import", "sell"], .any⟩).refused ((answered _).trans (by decide)) rfl _ _ rfl
  · refine ((orders asked ⟨["print", "import", "print"], .any⟩ rfl same).2 _ _ _ _).mp ?_
    exact (concurs asked).met.mpr (.inl ((answered _).trans (by decide)))

end Manager

end Licensing
