import Licensing.License.Draft
import Licensing.Proofs.Except
import Mathlib.Data.List.Nodup

/-!
# Well-formed licenses

The licenses that can be made from settings are those whose values meet the conditions on each
setting, and each of them is made from its own values again.

## Main definitions

* `IsPrincipal`, `Feature.WellFormed`, `License.WellFormed` — the conditions.
* `Setting.IsValid`, `Draft.put` — when a setting is not refused, and what it then changes.

## Main results

* `Draft.set_of_isValid`, `Draft.foldl_set_of_allValid` — valid settings change what they say.
* `Draft.refusal_set_eq_none_iff`, `Draft.refusal_foldl_set_eq_none_iff` — a refusal is remembered
  if and only if a setting is not valid.
* `License.wellFormed_of_build` — a license that is made is well formed.
* `License.build_allSettings_eq_ok_iff` — a license is made from its own values if and only if it is
  well formed.
* `License.exists_build_iff` — the well-formed licenses are those that can be made.
-/

namespace Licensing

/-- A text that can name the holder, the issuer or the subject of a license. -/
structure IsPrincipal (text : String) : Prop where
  notBlank : Text.isBlank text = false
  noBracket : ∀ c ∈ text.toList, isBracket c = false

/-- A feature that a license can grant. -/
structure Feature.WellFormed (f : Feature) : Prop where
  notBlank : Text.isBlank f.name = false
  notReserved : ∀ c ∈ f.name.toList, isReserved c = false
  expiry : f.expiry = never ∨ 0 ≤ f.expiry

/-- A license whose values meet all conditions. -/
structure License.WellFormed (l : License) : Prop where
  holder : IsPrincipal l.holder
  issuer : IsPrincipal l.issuer
  subject : IsPrincipal l.subject
  issueDate : 0 ≤ l.issueDate
  goodAfterDate : 0 ≤ l.goodAfterDate
  goodBeforeDate : 0 ≤ l.goodBeforeDate
  features : ∀ f ∈ l.features, f.WellFormed
  distinct : (l.features.map (·.name)).Nodup

/-! ### Conditions on single values -/

theorem checkText_eq_ok_iff {field : Field} {text name : String} :
    checkText field text = .ok name ↔ IsPrincipal text ∧ name = text := by
  constructor
  · intro h
    unfold checkText at h
    split_ifs at h with blank bracket
    cases h
    exact ⟨⟨by simpa using blank, by simpa using bracket⟩, rfl⟩
  · rintro ⟨⟨notBlank, noBracket⟩, rfl⟩
    have none : name.toList.any isBracket = false := by simpa using noBracket
    simp [checkText, notBlank, none]

theorem checkDate_eq_ok_iff {field : Field} {date taken : Int64} :
    checkDate field date = .ok taken ↔ 0 ≤ date ∧ taken = date := by
  rw [checkDate, ← Int64.not_lt]
  by_cases negative : date < 0 <;> simp [negative, eq_comm]

/-- Whether a feature never expires or expires no earlier than the start of 1970 is looked at from
the other side: it is refused if it expires earlier and does expire. -/
theorem expiry_iff {f : Feature} :
    (f.expiry < 0 && !f.neverExpires) = false ↔ f.expiry = Feature.never ∨ 0 ≤ f.expiry := by
  rw [← Int64.not_lt, Feature.neverExpires]
  by_cases never : f.expiry = Feature.never <;> simp [never]

theorem checkFeature_eq_ok_iff {present : List Feature} {f taken : Feature} :
    checkFeature present f = .ok taken ↔
      (f.WellFormed ∧ f.name ∉ present.map (·.name)) ∧ taken = f := by
  constructor
  · intro h
    unfold checkFeature at h
    split_ifs at h with blank reserved expiry repeated
    cases h
    have expiry := expiry_iff.mp (Bool.eq_false_iff.mpr expiry)
    exact ⟨⟨⟨by simpa using blank, by simpa using reserved, expiry⟩, by simpa using repeated⟩, rfl⟩
  · rintro ⟨⟨⟨notBlank, notReserved, expiry⟩, absent⟩, rfl⟩
    have none : taken.name.toList.any isReserved = false := by simpa using notReserved
    have new : present.any (·.name == taken.name) = false := by simpa using absent
    simp only [checkFeature, notBlank, none, expiry_iff.mpr expiry, new, Bool.false_eq_true,
      ↓reduceIte]

/-! ### Settings -/

/-- A setting that is not refused when some features are present already. -/
def Setting.IsValid (present : List Feature) : Setting → Prop
  | productKey _ | seats _ => True
  | holder name | issuer name | subject name => IsPrincipal name
  | issueDate date | goodAfterDate date | goodBeforeDate date => 0 ≤ date
  | feature f => f.WellFormed ∧ f.name ∉ present.map (·.name)

namespace Draft

/-- The draft with a value as a setting says, whether or not it is valid. -/
def put (d : Draft) : Setting → Draft
  | .productKey key => { d with productKey := key }
  | .holder name => { d with holder := some name }
  | .issuer name => { d with issuer := some name }
  | .subject name => { d with subject := some name }
  | .issueDate date => { d with issueDate := date }
  | .goodAfterDate date => { d with goodAfterDate := date }
  | .goodBeforeDate date => { d with goodBeforeDate := date }
  | .seats count => { d with seats := some count }
  | .feature f => { d with features := d.features ++ [f] }

/-- A valid setting changes what it says and nothing else. -/
theorem set_of_isValid {d : Draft} {s : Setting} (valid : s.IsValid d.features) :
    d.set s = d.put s := by
  cases s with
  | productKey | seats => rfl
  | holder | issuer | subject => rw [set, checkText_eq_ok_iff.mpr ⟨valid, rfl⟩]; rfl
  | issueDate | goodAfterDate | goodBeforeDate =>
    rw [set, checkDate_eq_ok_iff.mpr ⟨valid, rfl⟩]; rfl
  | feature => rw [set, checkFeature_eq_ok_iff.mpr ⟨valid, rfl⟩]; rfl

/-- No refusal is remembered after a value was looked at if and only if none was before and this
value is not refused. -/
theorem refusal_note_eq_none_iff {α : Type} {d : Draft} {checked : Except Rejection α} :
    (d.note checked).refusal = none ↔ d.refusal = none ∧ ∃ value, checked = .ok value := by
  cases checked <;> simp [note]

/-- No refusal is remembered after a setting if and only if none was before and the setting is
valid. -/
theorem refusal_set_eq_none_iff {d : Draft} {s : Setting} :
    (d.set s).refusal = none ↔ d.refusal = none ∧ s.IsValid d.features := by
  cases s with
  | productKey | seats => exact (and_iff_left trivial).symm
  | holder | issuer | subject =>
    refine refusal_note_eq_none_iff.trans (and_congr_right fun _ => ?_)
    simp only [checkText_eq_ok_iff, exists_eq_right, Setting.IsValid]
  | issueDate | goodAfterDate | goodBeforeDate =>
    refine refusal_note_eq_none_iff.trans (and_congr_right fun _ => ?_)
    simp only [checkDate_eq_ok_iff, exists_eq_right, Setting.IsValid]
  | feature =>
    refine refusal_note_eq_none_iff.trans (and_congr_right fun _ => ?_)
    simp only [checkFeature_eq_ok_iff, exists_eq_right, Setting.IsValid]

/-- Each of some settings is valid when it is its turn. -/
def AllValid (d : Draft) : List Setting → Prop
  | [] => True
  | s :: settings => s.IsValid d.features ∧ (d.put s).AllValid settings

/-- Settings that are all valid change what they say and nothing else. -/
theorem foldl_set_of_allValid {d : Draft} {settings : List Setting} (valid : d.AllValid settings) :
    settings.foldl set d = settings.foldl put d := by
  induction settings generalizing d with
  | nil => rfl
  | cons s settings ih =>
    rw [List.foldl_cons, List.foldl_cons, set_of_isValid valid.1, ih valid.2]

/-- No refusal is remembered after some settings if and only if none was before and all of them are
valid. -/
theorem refusal_foldl_set_eq_none_iff {d : Draft} {settings : List Setting} :
    (settings.foldl set d).refusal = none ↔ d.refusal = none ∧ d.AllValid settings := by
  induction settings generalizing d with
  | nil => exact (and_iff_left trivial).symm
  | cons s settings ih =>
    rw [List.foldl_cons, ih, refusal_set_eq_none_iff, AllValid, and_assoc,
      and_congr_right_iff]
    intro _
    refine and_congr_right fun valid => ?_
    rw [set_of_isValid valid]

/-- What is settled meets all conditions. -/
structure WellFormed (d : Draft) : Prop where
  holder : ∀ name ∈ d.holder, IsPrincipal name
  issuer : ∀ name ∈ d.issuer, IsPrincipal name
  subject : ∀ name ∈ d.subject, IsPrincipal name
  issueDate : 0 ≤ d.issueDate
  goodAfterDate : 0 ≤ d.goodAfterDate
  goodBeforeDate : 0 ≤ d.goodBeforeDate
  features : ∀ f ∈ d.features, f.WellFormed
  distinct : (d.features.map (·.name)).Nodup

theorem wellFormed_blank : blank.WellFormed := by
  constructor <;> simp [blank]

/-- A valid setting keeps all conditions. -/
theorem WellFormed.put {d : Draft} (h : d.WellFormed) {s : Setting}
    (valid : s.IsValid d.features) : (d.put s).WellFormed := by
  cases s with
  | productKey key => exact { h with }
  | holder name => exact { h with holder := by rintro _ ⟨⟩; exact valid }
  | issuer name => exact { h with issuer := by rintro _ ⟨⟩; exact valid }
  | subject name => exact { h with subject := by rintro _ ⟨⟩; exact valid }
  | issueDate date => exact { h with issueDate := valid }
  | goodAfterDate date => exact { h with goodAfterDate := valid }
  | goodBeforeDate date => exact { h with goodBeforeDate := valid }
  | seats count => exact { h with }
  | feature f =>
    refine { h with features := fun g hg => ?_, distinct := ?_ }
    · rcases List.mem_append.mp hg with hg | hg
      · exact h.features g hg
      · rw [List.mem_singleton.mp hg]
        exact valid.1
    · change ((d.features ++ [f]).map (·.name)).Nodup
      rw [List.map_append, List.nodup_append']
      exact ⟨h.distinct, List.nodup_singleton _, by simpa using valid.2⟩

theorem WellFormed.foldl_put {d : Draft} (h : d.WellFormed) {settings : List Setting}
    (valid : d.AllValid settings) : (settings.foldl Draft.put d).WellFormed := by
  induction settings generalizing d with
  | nil => exact h
  | cons s settings ih => exact ih (h.put valid.1) valid.2

end Draft

namespace License

/-- The draft in which everything is settled as in a license. -/
def toDraft (l : License) : Draft :=
  ⟨l.productKey, some l.holder, some l.issuer, some l.subject, l.issueDate, l.goodAfterDate,
    l.goodBeforeDate, some l.seats, l.features, none⟩

theorem require_eq_ok_iff {α : Type} {field : Field} {value : Option α} {a : α} :
    Draft.require field value = .ok a ↔ value = some a := by
  cases value <;> simp [Draft.require]

theorem checkRefusal_eq_ok_iff {d : Draft} {u : Unit} :
    d.checkRefusal = .ok u ↔ d.refusal = none := by
  unfold Draft.checkRefusal
  cases d.refusal <;> simp

/-- A draft gives a license if and only if everything is settled as in the license. -/
theorem finish_eq_ok_iff {d : Draft} {l : License} : d.finish = .ok l ↔ d = l.toDraft := by
  simp only [Draft.finish, bind_eq_ok_iff, checkRefusal_eq_ok_iff, require_eq_ok_iff,
    pure_eq_ok_iff]
  constructor
  · rintro ⟨_, hr, issuer, hi, holder, hh, subject, hs, seats, hn, rfl⟩
    simp [toDraft, ← hr, ← hi, ← hh, ← hs, ← hn]
  · rintro rfl
    exact ⟨(), rfl, _, rfl, _, rfl, _, rfl, _, rfl, rfl⟩

/-- A license is made from settings if and only if they are valid and settle everything as in the
license. -/
theorem build_eq_ok_iff {settings : List Setting} {l : License} :
    build settings = .ok l ↔
      Draft.blank.AllValid settings ∧ settings.foldl Draft.put Draft.blank = l.toDraft := by
  rw [build, finish_eq_ok_iff]
  constructor
  · intro eq
    have none : (settings.foldl Draft.set Draft.blank).refusal = none := by rw [eq]; rfl
    have valid := (Draft.refusal_foldl_set_eq_none_iff.mp none).2
    exact ⟨valid, (Draft.foldl_set_of_allValid valid).symm.trans eq⟩
  · rintro ⟨valid, eq⟩
    exact (Draft.foldl_set_of_allValid valid).trans eq

theorem ofSettings_eq_ok_iff {settings : List Setting} {l : License} :
    ofSettings settings = .ok l ↔ build settings = .ok l := by
  unfold ofSettings
  cases build settings <;> simp

/-- A license that is made from settings is well formed. -/
theorem wellFormed_of_build {settings : List Setting} {l : License}
    (h : build settings = .ok l) : l.WellFormed := by
  obtain ⟨valid, eq⟩ := build_eq_ok_iff.mp h
  have d := Draft.wellFormed_blank.foldl_put valid
  rw [eq] at d
  exact ⟨d.holder _ rfl, d.issuer _ rfl, d.subject _ rfl, d.issueDate, d.goodAfterDate,
    d.goodBeforeDate, d.features, d.distinct⟩

/-! ### A license from its own values -/

theorem foldl_put_features (d : Draft) (features : List Feature) :
    (features.map Setting.feature).foldl Draft.put d =
      { d with features := d.features ++ features } := by
  induction features generalizing d with
  | nil => simp
  | cons f features ih => simp [ih, Draft.put]

theorem allValid_features_iff {d : Draft} {features : List Feature} :
    d.AllValid (features.map .feature) ↔
      (∀ f ∈ features, f.WellFormed) ∧ (features.map (·.name)).Nodup ∧
        ∀ f ∈ features, f.name ∉ d.features.map (·.name) := by
  induction features generalizing d with
  | nil => simp [Draft.AllValid]
  | cons f features ih =>
    have names : (d.put (.feature f)).features.map (·.name) =
        d.features.map (·.name) ++ [f.name] := by
      simp [Draft.put]
    simp only [List.map_cons, Draft.AllValid, Setting.IsValid, ih, names, List.forall_mem_cons,
      List.nodup_cons, List.mem_append, List.mem_singleton, not_or, forall_and]
    have apart : (∀ g ∈ features, ¬ g.name = f.name) ↔ f.name ∉ features.map (·.name) := by
      simp
    rw [apart]
    tauto

theorem allValid_allSettings_iff {l : License} :
    Draft.blank.AllValid l.allSettings ↔ l.WellFormed := by
  simp only [allSettings, settings, List.cons_append, List.nil_append, Draft.AllValid,
    Setting.IsValid, allValid_features_iff]
  constructor
  · rintro ⟨-, holder, issuer, subject, issue, after, before, -, features, distinct, -⟩
    exact ⟨holder, issuer, subject, issue, after, before, features, distinct⟩
  · rintro ⟨holder, issuer, subject, issue, after, before, features, distinct⟩
    refine ⟨trivial, holder, issuer, subject, issue, after, before, trivial, features, distinct, ?_⟩
    simp [Draft.put, Draft.blank]

theorem foldl_put_allSettings (l : License) :
    l.allSettings.foldl Draft.put Draft.blank = l.toDraft := by
  simp [allSettings, settings, foldl_put_features, Draft.put, Draft.blank, toDraft]

theorem toDraft_injective : Function.Injective toDraft := by
  intro l other h
  cases l
  cases other
  simpa [toDraft] using h

/-- A license is made from its own values if and only if it is well formed. -/
theorem build_allSettings_eq_ok_iff {l made : License} :
    build l.allSettings = .ok made ↔ l.WellFormed ∧ made = l := by
  rw [build_eq_ok_iff, allValid_allSettings_iff, foldl_put_allSettings, toDraft_injective.eq_iff,
    eq_comm (a := l)]

/-- The licenses that can be made from settings are the well-formed ones. -/
theorem exists_build_iff {l : License} : (∃ settings, build settings = .ok l) ↔ l.WellFormed := by
  constructor
  · rintro ⟨settings, made⟩
    exact wellFormed_of_build made
  · intro wellFormed
    exact ⟨l.allSettings, build_allSettings_eq_ok_iff.mpr ⟨wellFormed, rfl⟩⟩

/-- A license with a lasting feature and one that ends. -/
def specimen : License :=
  ⟨"K-1", "Ada", "Acme Ltd", "Édition", 1500000000000, 1600000000000, 2000000000000, 5,
    [.lasting "export", ⟨"print", 1900000000000⟩]⟩

theorem build_specimen : build specimen.allSettings = .ok specimen := by
  decide

end License

end Licensing
