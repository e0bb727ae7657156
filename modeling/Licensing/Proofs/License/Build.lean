import Licensing.Proofs.License.WellFormed
import Licensing.Proofs.Lists
import Mathlib.Data.List.Find
import Mathlib.Data.List.Induction

/-!
# What comes of settings

What a list of settings comes to can be told from the settings alone, without a draft. A setting has
a fault or none, given the names of the features before it. The first fault is the reason why there
is no license. Without a fault, the last setting of each kind counts, features add up, and what no
setting settles is missing, unless there is a value for it.

## Main definitions

* `TextFault`, `FeatureFault`, `Setting.Fault` — what is wrong with a value.
* `Setting.Faultless` — no setting of a list has a fault.
* `lastValue?`, `Draft.ofLast` — the last value that settings give, and the draft of those values.
* `Draft.requiredFields`, `Draft.lacks` — what has to be settled, and what is not.
* `License.SettledBy` — the values of a license are those that settings settle.
* `License.Outcome` — what comes of settings.

## Main results

* `Setting.faultless_or_exists_first_fault` — there is a first fault or none.
* `Draft.refusal_set_eq_some_iff`, `Draft.refusal_foldl_set` — a setting is refused for its fault,
  and the refusal stays.
* `Draft.foldl_set_of_faultless` — a draft after settings without a fault.
* `License.build_eq_iff_outcome` — which license settings come to, or why there is none.
-/

namespace Licensing

/-! ### Faults -/

/-- What is wrong with a text that is to name a holder, an issuer or a subject. -/
inductive TextFault (text : String) : Reason → Prop where
  | blank (blank : Text.isBlank text = true) : TextFault text .blank
  | bracket (notBlank : Text.isBlank text = false)
      (bracket : '[' ∈ text.toList ∨ ']' ∈ text.toList) : TextFault text .bracket

/-- What is wrong with a feature when features of some names are present already. -/
inductive FeatureFault (present : List String) (f : Feature) : Reason → Prop where
  | blank (blank : Text.isBlank f.name = true) : FeatureFault present f .featureBlank
  | reserved (notBlank : Text.isBlank f.name = false)
      (reserved : '[' ∈ f.name.toList ∨ ']' ∈ f.name.toList ∨ ',' ∈ f.name.toList) :
      FeatureFault present f (.featureReserved f.name)
  | negative (notBlank : Text.isBlank f.name = false)
      (notReserved : '[' ∉ f.name.toList ∧ ']' ∉ f.name.toList ∧ ',' ∉ f.name.toList)
      (negative : f.expiry < 0) (ends : f.expiry ≠ Feature.never) :
      FeatureFault present f (.featureNegative f.name)
  | repeated (wellFormed : f.WellFormed) (repeated : f.name ∈ present) :
      FeatureFault present f (.featureRepeated f.name)

namespace Setting

/-- What is wrong with a setting when features of some names are present already. -/
inductive Fault (present : List String) : Setting → Rejection → Prop where
  | holder {name : String} {reason : Reason} (fault : TextFault name reason) :
      Fault present (.holder name) ⟨.holder, reason⟩
  | issuer {name : String} {reason : Reason} (fault : TextFault name reason) :
      Fault present (.issuer name) ⟨.issuer, reason⟩
  | subject {name : String} {reason : Reason} (fault : TextFault name reason) :
      Fault present (.subject name) ⟨.subject, reason⟩
  | issueDate {date : Int64} (negative : date < 0) :
      Fault present (.issueDate date) ⟨.issueDate, .negative date⟩
  | goodAfterDate {date : Int64} (negative : date < 0) :
      Fault present (.goodAfterDate date) ⟨.goodAfterDate, .negative date⟩
  | goodBeforeDate {date : Int64} (negative : date < 0) :
      Fault present (.goodBeforeDate date) ⟨.goodBeforeDate, .negative date⟩
  | feature {f : Feature} {reason : Reason} (fault : FeatureFault present f reason) :
      Fault present (.feature f) ⟨.features, reason⟩

/-- The field that a setting settles; the product key is none. -/
def field? : Setting → Option Field
  | .productKey _ => none
  | .holder _ => some .holder
  | .issuer _ => some .issuer
  | .subject _ => some .subject
  | .issueDate _ => some .issueDate
  | .goodAfterDate _ => some .goodAfterDate
  | .goodBeforeDate _ => some .goodBeforeDate
  | .seats _ => some .seats
  | .feature _ => some .features

/-- The value of a setting of one kind. -/
def productKey? : Setting → Option String
  | .productKey key => some key
  | _ => none

@[inherit_doc productKey?]
def holder? : Setting → Option String
  | .holder name => some name
  | _ => none

@[inherit_doc productKey?]
def issuer? : Setting → Option String
  | .issuer name => some name
  | _ => none

@[inherit_doc productKey?]
def subject? : Setting → Option String
  | .subject name => some name
  | _ => none

@[inherit_doc productKey?]
def issueDate? : Setting → Option Int64
  | .issueDate date => some date
  | _ => none

@[inherit_doc productKey?]
def goodAfterDate? : Setting → Option Int64
  | .goodAfterDate date => some date
  | _ => none

@[inherit_doc productKey?]
def goodBeforeDate? : Setting → Option Int64
  | .goodBeforeDate date => some date
  | _ => none

@[inherit_doc productKey?]
def seats? : Setting → Option UInt32
  | .seats count => some count
  | _ => none

@[inherit_doc productKey?]
def feature? : Setting → Option Feature
  | .feature f => some f
  | _ => none

/-- The names of the features that settings add. -/
def featureNames (settings : List Setting) : List String :=
  (settings.filterMap feature?).map (·.name)

/-- No setting of a list has a fault, given the features that are added before it. -/
def Faultless (settings : List Setting) : Prop :=
  ∀ before s after, settings = before ++ s :: after → ∀ r, ¬ s.Fault (featureNames before) r

theorem faultless_concat_iff {settings : List Setting} {s : Setting} :
    Faultless (settings ++ [s]) ↔
      Faultless settings ∧ ∀ r, ¬ s.Fault (featureNames settings) r := by
  constructor
  · intro h
    -- A setting before the last one has the same features before it with the last one or without.
    refine ⟨fun before other after split => ?_, h settings s [] rfl⟩
    exact h before other (after ++ [s]) (by rw [split]; simp)
  · rintro ⟨early, last⟩ before other after split
    rcases append_singleton_eq_iff.mp split with ⟨rfl, rfl, rfl⟩ | ⟨others, rfl, rfl⟩
    · exact last
    · exact early before other others rfl

/-- Settings have no fault, or there is a first one. -/
theorem faultless_or_exists_first_fault (settings : List Setting) :
    Faultless settings ∨ ∃ before s after r, settings = before ++ s :: after ∧
      Faultless before ∧ s.Fault (featureNames before) r := by
  induction settings using List.reverseRecOn with
  | nil => exact .inl fun before s after split => by simp at split
  | append_singleton settings last ih =>
    rcases ih with faultless | ⟨before, s, after, r, rfl, faultless, fault⟩
    · by_cases fault : ∃ r, last.Fault (featureNames settings) r
      · obtain ⟨r, fault⟩ := fault
        exact .inr ⟨settings, last, [], r, rfl, faultless, fault⟩
      · exact .inl (faultless_concat_iff.mpr ⟨faultless, not_exists.mp fault⟩)
    · exact .inr ⟨before, s, after ++ [last], r, by simp, faultless, fault⟩

end Setting

/-! ### Refusals -/

theorem any_isBracket_iff {chars : List Char} :
    chars.any isBracket = true ↔ '[' ∈ chars ∨ ']' ∈ chars := by
  simp only [List.any_eq_true, isBracket, Bool.or_eq_true, beq_iff_eq, and_or_left, exists_or,
    exists_eq_right]

theorem any_isReserved_iff {chars : List Char} :
    chars.any isReserved = true ↔ '[' ∈ chars ∨ ']' ∈ chars ∨ ',' ∈ chars := by
  simp only [List.any_eq_true, isReserved, isBracket, Bool.or_eq_true, beq_iff_eq, and_or_left,
    exists_or, exists_eq_right, or_assoc]

/-- A text is refused for its fault. -/
theorem checkText_eq_error_iff {field : Field} {text : String} {r : Rejection} :
    checkText field text = .error r ↔ ∃ reason, TextFault text reason ∧ r = ⟨field, reason⟩ := by
  constructor
  · intro h
    unfold checkText at h
    split_ifs at h with blank bracket
    · cases h
      exact ⟨_, .blank blank, rfl⟩
    · cases h
      exact ⟨_, .bracket (by simpa using blank) (any_isBracket_iff.mp bracket), rfl⟩
  · rintro ⟨_, fault, rfl⟩
    cases fault with
    | blank blank => simp [checkText, blank]
    | bracket notBlank bracket => simp [checkText, notBlank, any_isBracket_iff.mpr bracket]

/-- A date is refused if it is negative. -/
theorem checkDate_eq_error_iff {field : Field} {date : Int64} {r : Rejection} :
    checkDate field date = .error r ↔ date < 0 ∧ r = ⟨field, .negative date⟩ := by
  rw [checkDate]
  by_cases negative : date < 0 <;> simp [negative, eq_comm]

/-- A feature is refused for its fault. -/
theorem checkFeature_eq_error_iff {present : List Feature} {f : Feature} {r : Rejection} :
    checkFeature present f = .error r ↔
      ∃ reason, FeatureFault (present.map (·.name)) f reason ∧ r = ⟨.features, reason⟩ := by
  constructor
  · intro h
    unfold checkFeature at h
    split_ifs at h with blank reserved expiry repeated
    · cases h
      exact ⟨_, .blank blank, rfl⟩
    · cases h
      exact ⟨_, .reserved (by simpa using blank) (any_isReserved_iff.mp reserved), rfl⟩
    · cases h
      rw [any_isReserved_iff, not_or, not_or] at reserved
      rw [Bool.and_eq_true, decide_eq_true_eq] at expiry
      exact ⟨_, .negative (by simpa using blank) reserved expiry.1
        (by simpa [Feature.neverExpires] using expiry.2), rfl⟩
    · cases h
      have wellFormed : f.WellFormed :=
        ⟨by simpa using blank, by simpa using reserved, expiry_iff.mp (by simpa using expiry)⟩
      exact ⟨_, .repeated wellFormed (by simpa using repeated), rfl⟩
  · rintro ⟨_, fault, rfl⟩
    cases fault with
    | blank blank => simp [checkFeature, blank]
    | reserved notBlank reserved => simp [checkFeature, notBlank, any_isReserved_iff.mpr reserved]
    | negative notBlank notReserved negative ends =>
      have none : f.name.toList.any isReserved = false := by
        rwa [← Bool.not_eq_true, any_isReserved_iff, not_or, not_or]
      simp [checkFeature, notBlank, none, negative, Feature.neverExpires, ends]
    | repeated wellFormed repeated =>
      have none : f.name.toList.any isReserved = false := by simpa using wellFormed.notReserved
      have taken : present.any (·.name == f.name) = true := by simpa using repeated
      simp only [checkFeature, wellFormed.notBlank, none, expiry_iff.mpr wellFormed.expiry, taken,
        Bool.false_eq_true, ↓reduceIte]

namespace Draft

/-- If nothing was refused before, what a setting is refused for is its fault. -/
theorem refusal_set_eq_some_iff {d : Draft} (none : d.refusal = none) {s : Setting}
    {r : Rejection} : (d.set s).refusal = some r ↔ s.Fault (d.features.map (·.name)) r := by
  have noted {α : Type} (checked : Except Rejection α) :
      (d.note checked).refusal = some r ↔ checked = .error r := by
    cases checked <;> simp [note, none]
  cases s with
  | productKey | seats =>
    constructor
    · intro refused
      exact absurd (refused.symm.trans none) (Option.some_ne_none r)
    · intro fault
      cases fault
  | holder | issuer | subject =>
    refine (noted _).trans (checkText_eq_error_iff.trans ⟨?_, ?_⟩)
    · rintro ⟨reason, fault, rfl⟩
      constructor
      exact fault
    · intro fault
      cases fault with
      | _ fault => exact ⟨_, fault, rfl⟩
  | issueDate | goodAfterDate | goodBeforeDate =>
    refine (noted _).trans (checkDate_eq_error_iff.trans ⟨?_, ?_⟩)
    · rintro ⟨negative, rfl⟩
      constructor
      exact negative
    · intro fault
      cases fault with
      | _ negative => exact ⟨negative, rfl⟩
  | feature =>
    refine (noted _).trans (checkFeature_eq_error_iff.trans ⟨?_, ?_⟩)
    · rintro ⟨reason, fault, rfl⟩
      exact .feature fault
    · intro fault
      cases fault with
      | _ fault => exact ⟨_, fault, rfl⟩

/-- A refusal is remembered whatever is set after it. -/
theorem refusal_foldl_set {d : Draft} {r : Rejection} (refused : d.refusal = some r)
    (settings : List Setting) : (settings.foldl set d).refusal = some r := by
  have kept {d : Draft} (refused : d.refusal = some r) (s : Setting) :
      (d.set s).refusal = some r := by
    have noted {α : Type} (checked : Except Rejection α) : (d.note checked).refusal = some r := by
      cases checked <;> simp [note, refused]
    cases s with
    | productKey | seats => exact refused
    | holder | issuer | subject | issueDate | goodAfterDate | goodBeforeDate | feature =>
      exact noted _
  induction settings generalizing d with
  | nil => exact refused
  | cons s settings ih => exact ih (kept refused s)

/-- If nothing was refused before, a setting is valid if and only if it has no fault. -/
theorem isValid_iff_not_fault {d : Draft} (none : d.refusal = none) {s : Setting} :
    s.IsValid d.features ↔ ∀ r, ¬ s.Fault (d.features.map (·.name)) r := by
  simp only [← refusal_set_eq_some_iff none, ← Option.eq_none_iff_forall_ne_some,
    refusal_set_eq_none_iff, none, true_and]

end Draft

/-! ### The last values -/

/-- The last value that settings give, of the values of one kind. -/
def lastValue? {α : Type} (value? : Setting → Option α) (settings : List Setting) : Option α :=
  (settings.filterMap value?).getLast?

@[simp]
theorem lastValue?_concat {α : Type} (value? : Setting → Option α) (settings : List Setting)
    (s : Setting) :
    lastValue? value? (settings ++ [s]) = (value? s).or (lastValue? value? settings) := by
  rw [lastValue?, List.filterMap_append, List.getLast?_append, lastValue?]
  cases value : value? s with
  | none => rw [List.filterMap_cons_none value]; rfl
  | some a => rw [List.filterMap_cons_some value]; rfl

theorem lastValue?_eq_none_iff {α : Type} {value? : Setting → Option α} {settings : List Setting} :
    lastValue? value? settings = none ↔ ∀ s ∈ settings, value? s = none := by
  rw [lastValue?, List.getLast?_eq_none_iff, List.filterMap_eq_nil_iff]

namespace Draft

/-- The draft in which everything is as the last setting of its kind says. -/
def ofLast (settings : List Setting) : Draft where
  productKey := (lastValue? Setting.productKey? settings).getD ""
  holder := lastValue? Setting.holder? settings
  issuer := lastValue? Setting.issuer? settings
  subject := lastValue? Setting.subject? settings
  issueDate := (lastValue? Setting.issueDate? settings).getD 0
  goodAfterDate := (lastValue? Setting.goodAfterDate? settings).getD 0
  goodBeforeDate := (lastValue? Setting.goodBeforeDate? settings).getD 0
  seats := lastValue? Setting.seats? settings
  features := settings.filterMap Setting.feature?
  refusal := none

/-- Of the values that are put into a draft the last ones stay, and features add up. -/
theorem foldl_put_blank (settings : List Setting) : settings.foldl put blank = ofLast settings := by
  induction settings using List.reverseRecOn with
  | nil => rfl
  | append_singleton settings last ih =>
    rw [List.foldl_concat, ih]
    simp only [ofLast, lastValue?_concat, List.filterMap_append]
    cases last with
    | feature f => rfl
    | _ =>
      simp only [List.filterMap_cons, Setting.feature?, List.filterMap_nil, List.append_nil]
      rfl

/-- Of settings without a fault the last values stay. -/
theorem foldl_set_of_faultless {settings : List Setting} (h : Setting.Faultless settings) :
    settings.foldl set blank = ofLast settings := by
  induction settings using List.reverseRecOn with
  | nil => rfl
  | append_singleton settings last ih =>
    obtain ⟨early, sound⟩ := Setting.faultless_concat_iff.mp h
    have valid : last.IsValid (ofLast settings).features := (isValid_iff_not_fault rfl).mpr sound
    rw [List.foldl_concat, ih early, set_of_isValid valid, ← foldl_put_blank, ← foldl_put_blank,
      List.foldl_concat]

/-! ### What is missing -/

/-- The fields that have to be settled, in the order in which they are asked for. -/
def requiredFields : List Field :=
  [.issuer, .holder, .subject, .seats]

/-- Nothing is settled for a required field. -/
def lacks (d : Draft) : Field → Bool
  | .issuer => d.issuer.isNone
  | .holder => d.holder.isNone
  | .subject => d.subject.isNone
  | .seats => d.seats.isNone
  | _ => false

/-- A draft without a refusal fails for what it lacks first. -/
theorem finish_eq_missing {d : Draft} {field : Field} (accepted : d.refusal = none)
    (first : requiredFields.find? d.lacks = some field) : d.finish = .error ⟨field, .missing⟩ := by
  obtain ⟨key, holder, issuer, subject, issued, after, before, seats, features, refusal⟩ := d
  cases accepted
  cases issuer with
  | none => cases first; rfl
  | some issuer => ?_
  cases holder with
  | none => cases first; rfl
  | some holder => ?_
  cases subject with
  | none => cases first; rfl
  | some subject => ?_
  cases seats with
  | none => cases first; rfl
  | some seats => cases first

/-- A draft without a refusal that lacks nothing is that of a license. -/
theorem exists_eq_toDraft {d : Draft} (accepted : d.refusal = none)
    (complete : requiredFields.find? d.lacks = none) : ∃ l : License, d = l.toDraft := by
  obtain ⟨key, holder, issuer, subject, issued, after, before, seats, features, refusal⟩ := d
  cases accepted
  have settled : (issuer.isSome ∧ holder.isSome ∧ subject.isSome ∧ seats.isSome) := by
    simpa [requiredFields, lacks, Option.isSome_iff_ne_none] using complete
  obtain ⟨issuerSome, holderSome, subjectSome, seatsSome⟩ := settled
  obtain ⟨issuer, rfl⟩ := Option.isSome_iff_exists.mp issuerSome
  obtain ⟨holder, rfl⟩ := Option.isSome_iff_exists.mp holderSome
  obtain ⟨subject, rfl⟩ := Option.isSome_iff_exists.mp subjectSome
  obtain ⟨seats, rfl⟩ := Option.isSome_iff_exists.mp seatsSome
  exact ⟨⟨key, holder, issuer, subject, issued, after, before, seats, features⟩, rfl⟩

/-- What a draft lacks after some settings is what none of them settles. -/
theorem lacks_ofLast (settings : List Setting) {field : Field} (required : field ∈ requiredFields) :
    (ofLast settings).lacks field = settings.all fun s => s.field? != some field := by
  have unsettled {α : Type} {value? : Setting → Option α}
      (settles : ∀ s : Setting, s.field? ≠ some field ↔ value? s = none) :
      (lastValue? value? settings).isNone = settings.all fun s => s.field? != some field := by
    rw [Bool.eq_iff_iff, Option.isNone_iff_eq_none, lastValue?_eq_none_iff, List.all_eq_true]
    simp only [bne_iff_ne, settles]
  simp only [requiredFields, List.mem_cons, List.not_mem_nil, or_false] at required
  obtain rfl | rfl | rfl | rfl := required
  all_goals
    refine unsettled fun s => ?_
    cases s <;>
      simp [Setting.field?, Setting.issuer?, Setting.holder?, Setting.subject?, Setting.seats?]

end Draft

namespace License

/-! ### Outcomes -/

/-- The values of a license are those that settings settle: of each kind the last one, the features
in order. The key is empty and the dates are the start of 1970 unless they are settled. -/
structure SettledBy (l : License) (settings : List Setting) : Prop where
  productKey : l.productKey = (lastValue? Setting.productKey? settings).getD ""
  holder : lastValue? Setting.holder? settings = some l.holder
  issuer : lastValue? Setting.issuer? settings = some l.issuer
  subject : lastValue? Setting.subject? settings = some l.subject
  issueDate : l.issueDate = (lastValue? Setting.issueDate? settings).getD 0
  goodAfterDate : l.goodAfterDate = (lastValue? Setting.goodAfterDate? settings).getD 0
  goodBeforeDate : l.goodBeforeDate = (lastValue? Setting.goodBeforeDate? settings).getD 0
  seats : lastValue? Setting.seats? settings = some l.seats
  features : l.features = settings.filterMap Setting.feature?

/-- The first required field that no setting settles. -/
def missingField? (settings : List Setting) : Option Field :=
  Draft.requiredFields.find? fun field => settings.all fun s => s.field? != some field

/-- What comes of settings. -/
inductive Outcome (settings : List Setting) : Except Rejection License → Prop where
  /-- The first fault, whatever is set after it. -/
  | refused {before after : List Setting} {s : Setting} {r : Rejection}
      (split : settings = before ++ s :: after) (faultless : Setting.Faultless before)
      (fault : s.Fault (Setting.featureNames before) r) : Outcome settings (.error r)
  /-- There is no fault, but something is missing. -/
  | missing {field : Field} (faultless : Setting.Faultless settings)
      (first : missingField? settings = some field) : Outcome settings (.error ⟨field, .missing⟩)
  /-- There is no fault, and everything is settled. -/
  | made {l : License} (faultless : Setting.Faultless settings) (settled : l.SettledBy settings) :
      Outcome settings (.ok l)

theorem ofLast_eq_toDraft_iff {settings : List Setting} {l : License} :
    Draft.ofLast settings = l.toDraft ↔ l.SettledBy settings := by
  rw [Draft.ofLast, toDraft, Draft.mk.injEq]
  constructor
  · rintro ⟨key, holder, issuer, subject, issued, after, before, seats, features, -⟩
    exact ⟨key.symm, holder, issuer, subject, issued.symm, after.symm, before.symm, seats,
      features.symm⟩
  · rintro ⟨key, holder, issuer, subject, issued, after, before, seats, features⟩
    exact ⟨key.symm, holder, issuer, subject, issued.symm, after.symm, before.symm, seats,
      features.symm, rfl⟩

theorem missingField?_eq_find?_lacks (settings : List Setting) :
    missingField? settings = Draft.requiredFields.find? (Draft.ofLast settings).lacks :=
  List.find?_congr fun _ required => (Draft.lacks_ofLast settings required).symm

/-- Settings make what comes of them. -/
theorem Outcome.build_eq {settings : List Setting} {result : Except Rejection License}
    (h : Outcome settings result) : build settings = result := by
  cases h with
  | @refused before after s r split faultless fault =>
    subst split
    -- Nothing is refused before the fault, so that the fault is what is remembered to the end.
    have first : ((Draft.ofLast before).set s).refusal = some r :=
      (Draft.refusal_set_eq_some_iff rfl).mpr fault
    rw [build, List.foldl_append, List.foldl_cons, Draft.foldl_set_of_faultless faultless,
      Draft.finish, Draft.checkRefusal, Draft.refusal_foldl_set first after, error_bind]
  | missing faultless first =>
    rw [missingField?_eq_find?_lacks] at first
    rw [build, Draft.foldl_set_of_faultless faultless, Draft.finish_eq_missing rfl first]
  | made faultless settled =>
    rw [build, Draft.foldl_set_of_faultless faultless, finish_eq_ok_iff, ofLast_eq_toDraft_iff]
    exact settled

/-- Something comes of any settings. -/
theorem exists_outcome (settings : List Setting) : ∃ result, Outcome settings result := by
  rcases Setting.faultless_or_exists_first_fault settings with
    faultless | ⟨before, s, after, r, split, faultless, fault⟩
  · cases first : missingField? settings with
    | some field => exact ⟨_, .missing faultless first⟩
    | none =>
      rw [missingField?_eq_find?_lacks] at first
      obtain ⟨l, eq⟩ := Draft.exists_eq_toDraft rfl first
      exact ⟨_, .made faultless (ofLast_eq_toDraft_iff.mp eq)⟩
  · exact ⟨_, .refused split faultless fault⟩

/-- **What settings make.** There is no license for the first fault of a setting, whatever is set
after it; without a fault, there is none for the first field of issuer, holder, subject and seats
that no setting settles, which is required; and otherwise the license has the last value of each
kind and the features in order. -/
theorem build_eq_iff_outcome (settings : List Setting) :
    (∀ result, build settings = result ↔ Outcome settings result) ∧
      Reason.missing.message = "is required" := by
  refine ⟨fun result => ⟨?_, Outcome.build_eq⟩, rfl⟩
  rintro rfl
  obtain ⟨result, outcome⟩ := exists_outcome settings
  rwa [outcome.build_eq]

/-- A name that is refused is not made good by a later one. -/
example : build [.holder " ", .issueDate (-1), .holder "Ada"] = .error ⟨.holder, .blank⟩ := by
  decide

end License

end Licensing
