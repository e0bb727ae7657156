import Licensing.Proofs.License.Coverage
import Licensing.Proofs.License.Obtained

/-!
# Access over time

When a license is valid and covers some features, whether all of them or one, depends on the time in
a simple manner: from the start of the license on until an end that the names of the features
settle, provided that the license has them.

## Main definitions

* `License.HasAccess` — a license is valid at a time and the query for some names answers yes.
* `License.named`, `License.HasNamed` — the features of these names, and that the license has all of
  them, or one.
* `License.endOfAll`, `License.endOfAny`, `License.accessEnd` — the end of the access.
* `Validity.rank` — the validities in the order in which they come.

## Main results

* `License.WellFormed.hasAccess_iff` — when there is access.
* `License.rank_validity_le` — in which order a license is not yet valid, valid and expired.
* `License.access_is_interval` — access is one interval of time.
-/

namespace Licensing

/-- The place of a validity in the order in which they come. -/
def Validity.rank : Validity → Nat
  | notYetValid => 0
  | valid => 1
  | expired => 2

namespace License

/-- A license is valid at a time, and covers all of some names then, or one of them. -/
def HasAccess (l : License) (operand : Operand) (names : List String) (t : Int64) : Prop :=
  l.validateAt t = .ok () ∧ l.query operand t names = true

/-- The features of a license that are called by some names. -/
def named (l : License) (names : List String) : List Feature :=
  l.features.filter (·.name ∈ names)

/-- A license has features of all of some names, or of one of them. -/
def HasNamed (l : License) : Operand → List String → Prop
  | .all, names => ∀ name ∈ names, ∃ f ∈ l.features, f.name = name
  | .any, names => ∃ name ∈ names, ∃ f ∈ l.features, f.name = name

/-- The end of the license, or that of the first of the named features to end if it comes before. -/
def endOfAll (l : License) (names : List String) : Int64 :=
  (((l.named names).filter (!·.neverExpires)).map (·.expiry)).foldl min l.goodBeforeDate

/-- The end of the license, or that of the last of the named features to end if it comes before and
each of them does end. -/
def endOfAny (l : License) (names : List String) : Int64 :=
  if (l.named names).any (·.neverExpires) then l.goodBeforeDate
  else
    match ((l.named names).map (·.expiry)).max? with
    | some last => min l.goodBeforeDate last
    | none => l.goodBeforeDate

/-- The end of the access to all of some features, or to one of them. -/
def accessEnd (l : License) : Operand → List String → Int64
  | .all => l.endOfAll
  | .any => l.endOfAny

variable {l : License} {names : List String} {t u : Int64}

/-! ### Validity -/

theorem validity_eq_valid_iff :
    l.validity t = .valid ↔ l.goodAfterDate ≤ t ∧ t < l.goodBeforeDate := by
  unfold validity
  split_ifs with early late
  · exact iff_of_false nofun fun h => Int64.not_lt.mpr h.1 early
  · exact iff_of_false nofun fun h => Int64.not_lt.mpr late h.2
  · exact iff_of_true rfl ⟨Int64.not_lt.mp early, Int64.not_le.mp late⟩

theorem validateAt_eq_ok_iff :
    l.validateAt t = .ok () ↔ l.goodAfterDate ≤ t ∧ t < l.goodBeforeDate := by
  rw [← validity_eq_valid_iff, validateAt]
  cases l.validity t <;> simp

/-- As time goes on, a license is not yet valid, then valid, then expired. -/
theorem rank_validity_le (later : t ≤ u) : (l.validity t).rank ≤ (l.validity u).rank := by
  by_cases early : u < l.goodAfterDate
  · have earlier : t < l.goodAfterDate := Int64.lt_of_le_of_lt later early
    rw [validity, validity, if_pos earlier, if_pos early]
  · by_cases ended : l.goodBeforeDate ≤ u
    · have last : l.validity u = .expired := by rw [validity, if_neg early, if_pos ended]
      rw [last]
      cases l.validity t <;> decide
    · have running : ¬ l.goodBeforeDate ≤ t := fun before => ended (Int64.le_trans before later)
      rw [validity, validity, if_neg running, if_neg early, if_neg ended]
      split <;> decide

/-! ### Ends -/

instance : Std.LawfulOrderSup Int64 where
  max_le_iff a b c := by
    change (if a ≤ b then b else a) ≤ c ↔ _
    split_ifs with le
    · exact ⟨fun h => ⟨Int64.le_trans le h, h⟩, And.right⟩
    · have ge : b ≤ a := Int64.le_of_lt (Int64.not_le.mp le)
      exact ⟨fun h => ⟨h, Int64.le_trans ge h⟩, And.left⟩

theorem mem_named_iff {f : Feature} : f ∈ l.named names ↔ f ∈ l.features ∧ f.name ∈ names := by
  rw [named, List.mem_filter, decide_eq_true_eq]

theorem lt_min_iff {a b : Int64} : t < min a b ↔ t < a ∧ t < b := by
  simp only [← Int64.not_le, Std.min_le, not_or]

theorem lt_foldl_min_iff {a : Int64} {ends : List Int64} :
    t < ends.foldl min a ↔ t < a ∧ ∀ stop ∈ ends, t < stop := by
  induction ends generalizing a with
  | nil => simp
  | cons stop ends ih => rw [List.foldl_cons, ih, lt_min_iff, List.forall_mem_cons, and_assoc]

/-- A time is before the end of all named features if it is before that of the license and of each
feature. -/
theorem lt_endOfAll_iff :
    t < l.endOfAll names ↔
      t < l.goodBeforeDate ∧ ∀ f ∈ l.named names, f.isExpiredAt t = false := by
  rw [endOfAll, lt_foldl_min_iff]
  simp only [List.forall_mem_map, List.mem_filter, Bool.not_eq_true', and_imp,
    Feature.isExpiredAt_eq_false_iff, or_iff_not_imp_left, Bool.not_eq_true]

/-- A time is before the end of the named features if it is before that of the license and of one
feature. -/
theorem lt_endOfAny_iff (present : l.named names ≠ []) :
    t < l.endOfAny names ↔
      t < l.goodBeforeDate ∧ ∃ f ∈ l.named names, f.isExpiredAt t = false := by
  simp only [Feature.isExpiredAt_eq_false_iff]
  unfold endOfAny
  split_ifs with lasting
  · obtain ⟨f, mem, never⟩ := List.any_eq_true.mp lasting
    exact (and_iff_left ⟨f, mem, .inl never⟩).symm
  · rcases found : ((l.named names).map (·.expiry)).max? with _ | last
    · exact absurd (List.map_eq_nil_iff.mp (List.max?_eq_none_iff.mp found)) present
    · have before : t < last ↔ ∃ f ∈ l.named names, t < f.expiry := by
        rw [← Int64.not_le, List.max?_le_iff found]
        simp [Int64.not_le]
      simp only [found, lt_min_iff, before]
      refine and_congr_right fun _ => exists_congr fun f => and_congr_right fun mem => ?_
      exact (or_iff_right fun never => lasting (List.any_eq_true.mpr ⟨f, mem, never⟩)).symm

/-! ### Access -/

/-- A license has a feature that is called by one of some names if and only if one is among the
named features. -/
theorem hasNamed_any_iff : l.HasNamed .any names ↔ l.named names ≠ [] := by
  constructor
  · rintro ⟨_, mem, f, found, rfl⟩
    exact List.ne_nil_of_mem (mem_named_iff.mpr ⟨found, mem⟩)
  · intro present
    obtain ⟨f, mem⟩ := List.exists_mem_of_ne_nil _ present
    obtain ⟨found, mem⟩ := mem_named_iff.mp mem
    exact ⟨_, mem, f, found, rfl⟩

/-- All names are covered if and only if the license has features of all of them and none of these
has ended. -/
theorem WellFormed.coversAll_iff (h : l.WellFormed) :
    l.coversAll t names = true ↔
      l.HasNamed .all names ∧ ∀ f ∈ l.named names, f.isExpiredAt t = false := by
  simp only [coversAll, List.all_eq_true, h.covers_iff, HasNamed, mem_named_iff]
  constructor
  · intro covered
    refine ⟨fun name mem => ?_, fun f ⟨found, mem⟩ => ?_⟩
    · obtain ⟨f, found, called, -⟩ := covered name mem
      exact ⟨f, found, called⟩
    · obtain ⟨g, present, called, live⟩ := covered f.name mem
      rwa [← List.inj_on_of_nodup_map h.distinct present found called]
  · rintro ⟨has, live⟩ name mem
    obtain ⟨f, found, rfl⟩ := has name mem
    exact ⟨f, found, rfl, live f ⟨found, mem⟩⟩

/-- One of some names is covered if and only if one of the named features has not ended. -/
theorem WellFormed.coversAny_iff (h : l.WellFormed) :
    l.coversAny t names = true ↔ ∃ f ∈ l.named names, f.isExpiredAt t = false := by
  simp only [coversAny, List.any_eq_true, h.covers_iff, mem_named_iff]
  constructor
  · rintro ⟨_, mem, f, found, rfl, live⟩
    exact ⟨f, ⟨found, mem⟩, live⟩
  · rintro ⟨f, ⟨found, mem⟩, live⟩
    exact ⟨_, mem, f, found, rfl, live⟩

/-- There is access from the start of the license until the end that the names settle, if the
license has the features. -/
theorem WellFormed.hasAccess_iff (h : l.WellFormed) {operand : Operand} :
    l.HasAccess operand names t ↔
      l.HasNamed operand names ∧ l.goodAfterDate ≤ t ∧ t < l.accessEnd operand names := by
  unfold HasAccess
  rw [validateAt_eq_ok_iff]
  cases operand with
  | all =>
    change _ ∧ l.coversAll t names = true ↔ _ ∧ _ ∧ t < l.endOfAll names
    rw [h.coversAll_iff, lt_endOfAll_iff]
    tauto
  | any =>
    change _ ∧ l.coversAny t names = true ↔ _ ∧ _ ∧ t < l.endOfAny names
    rw [h.coversAny_iff, hasNamed_any_iff]
    constructor
    · rintro ⟨⟨began, running⟩, f, mem, live⟩
      have present := List.ne_nil_of_mem mem
      exact ⟨present, began, (lt_endOfAny_iff present).mpr ⟨running, f, mem, live⟩⟩
    · rintro ⟨present, began, before⟩
      obtain ⟨running, live⟩ := (lt_endOfAny_iff present).mp before
      exact ⟨⟨began, running⟩, live⟩

/-- Access does not come back once the license has begun. -/
theorem WellFormed.not_hasAccess_of_le (h : l.WellFormed) {operand : Operand}
    (began : l.goodAfterDate ≤ t) (lost : ¬ l.HasAccess operand names t) (later : t ≤ u) :
    ¬ l.HasAccess operand names u := by
  intro again
  obtain ⟨has, -, before⟩ := h.hasAccess_iff.mp again
  exact lost (h.hasAccess_iff.mpr ⟨has, began, Int64.lt_of_le_of_lt later before⟩)

/-- **Access is one interval of time.** A license that can be had is valid and covers all of some
names if and only if it has features of all of them, it has begun, and neither it nor one of these
features has ended. For one of the names it is enough that the license has one of these features,
and that the last one has not ended. So there is access between any two times at which there is,
access that is lost is not had again, and a license that ends before it begins never gives any. It
is not yet valid at first, then valid, and then expired. -/
theorem access_is_interval (had : l.Obtained) (names : List String) :
    (∀ t, l.validateAt t = .ok () ∧ l.coversAll t names = true ↔
      (∀ name ∈ names, ∃ f ∈ l.features, f.name = name) ∧
        l.goodAfterDate ≤ t ∧ t < l.endOfAll names) ∧
      (∀ t, l.validateAt t = .ok () ∧ l.coversAny t names = true ↔
        (∃ name ∈ names, ∃ f ∈ l.features, f.name = name) ∧
          l.goodAfterDate ≤ t ∧ t < l.endOfAny names) ∧
      (∀ operand t₁ t₂ t₃, t₁ ≤ t₂ → t₂ ≤ t₃ → l.HasAccess operand names t₁ →
        l.HasAccess operand names t₃ → l.HasAccess operand names t₂) ∧
      (∀ operand t u, l.goodAfterDate ≤ t → ¬ l.HasAccess operand names t → t ≤ u →
        ¬ l.HasAccess operand names u) ∧
      (∀ t u, t ≤ u → (l.validity t).rank ≤ (l.validity u).rank) ∧
      (l.goodBeforeDate ≤ l.goodAfterDate → ∀ operand t, ¬ l.HasAccess operand names t) := by
  have h := had.wellFormed
  have all t : l.HasAccess .all names t ↔ _ := h.hasAccess_iff
  have any t : l.HasAccess .any names t ↔ _ := h.hasAccess_iff
  refine ⟨all, any, ?_, fun _ _ _ => h.not_hasAccess_of_le, fun _ _ => rank_validity_le, ?_⟩
  · intro operand t₁ t₂ t₃ first second early late
    by_contra lost
    have began := Int64.le_trans (h.hasAccess_iff.mp early).2.1 first
    exact h.not_hasAccess_of_le began lost second late
  · rintro inverted operand t ⟨valid, -⟩
    obtain ⟨began, running⟩ := validateAt_eq_ok_iff.mp valid
    exact Int64.not_lt.mpr (Int64.le_trans inverted began) running

/-- The license with a lasting feature and one that ends covers both, one of them named twice, until
just before the latter ends; one of them, and one that it does not have, until it ends itself. -/
theorem access_is_interval_specimen :
    specimen.Obtained ∧
      (specimen.validateAt 1899999999999 = .ok () ∧
        specimen.coversAll 1899999999999 ["print", "export", "print"] = true) ∧
      ¬ specimen.HasAccess .all ["print", "export", "print"] 1950000000000 ∧
      (specimen.validateAt 1999999999999 = .ok () ∧
        specimen.coversAny 1999999999999 ["import", "export", "print"] = true) := by
  have had : specimen.Obtained := .built build_specimen
  obtain ⟨all, -, -, lost, -⟩ := access_is_interval had ["print", "export", "print"]
  obtain ⟨-, any, -⟩ := access_is_interval had ["import", "export", "print"]
  refine ⟨had, (all _).mpr ?_, lost .all 1900000000000 _ ?_ ?_ ?_, (any _).mpr ?_⟩
  · exact ⟨by decide, by decide, by decide⟩
  · decide
  · exact fun access => absurd access.2 (by decide)
  · decide
  · exact ⟨by decide, by decide, by decide⟩

end License

end Licensing
