import Licensing.Manager
import Licensing.Proofs.Except

/-!
# Runs of a manager

A run is a list of calls to one manager. Between two calls, and in the course of one, the
surroundings may answer differently and the clock may show any time, also an earlier one.

## Main definitions

* `Request`, `Call` — what is asked of a manager, and what it meets while it answers.
* `Manager.perform` — the outcome of a call and the manager after it.
* `Manager.next`, `Manager.after` — the manager after a call and after a run.
* `Manager.contextsOf` — the contexts that a run is about.
* `Manager.Opens` — a call opens a license anew.

## Main results

* `Manager.load_eq_ok_iff`, `Manager.kept?_eq_some_iff` — which license is opened, and which is
  kept.
* `Manager.get_cases` — all that looking up a license can come to.
* `Manager.next_cases` — all that a call can do to the licenses that are kept.
* `Manager.after_config` — no run changes the configuration.
-/

namespace Licensing

/-- What is asked of a manager. -/
inductive Request where
  /-- The license of a context. -/
  | get (context : String)
  /-- Whether the license of a context covers every one of the names. -/
  | coversAll (context : String) (names : List String)
  /-- Whether the license of a context covers one of the names. -/
  | coversAny (context : String) (names : List String)
  /-- That the license of a context meets a restriction. -/
  | check (context : String) (restriction : Restriction)
  /-- To keep no license any more. -/
  | clearCache

/-- The context that a request is about. -/
def Request.context? : Request → Option String
  | get context | coversAll context _ | coversAny context _ | check context _ => some context
  | clearCache => none

/-- A request, with what the surroundings answer and what the clock shows in the course of it. -/
structure Call where
  request : Request
  sources : Sources
  readings : Readings

/-- What comes of a call. -/
inductive Outcome where
  | license (result : Except Error License)
  | answer (result : Except Error Bool)
  | verdict (result : Except Error Unit)
  | cleared

namespace Manager

/-- A manager as it is made: it keeps no license. -/
def fresh (config : Config) (validator : Validator) : Manager :=
  ⟨config, validator, []⟩

/-- What comes of a call, and the manager after it. -/
def perform (m : Manager) (c : Call) : Outcome × Manager :=
  match c.request with
  | .get context =>
    let a := m.get c.sources c.readings.lookup context
    (.license a.result, a.manager)
  | .coversAll context names =>
    let a := m.coversAll c.sources c.readings context names
    (.answer a.result, a.manager)
  | .coversAny context names =>
    let a := m.coversAny c.sources c.readings context names
    (.answer a.result, a.manager)
  | .check context restriction =>
    let a := m.check c.sources c.readings context restriction
    (.verdict a.result, a.manager)
  | .clearCache => (.cleared, m.clearCache)

/-- The manager after a call. -/
def next (m : Manager) (c : Call) : Manager :=
  (m.perform c).2

/-- The manager after a run. -/
def after (m : Manager) (calls : List Call) : Manager :=
  calls.foldl next m

@[simp] theorem after_nil (m : Manager) : m.after [] = m := rfl

@[simp] theorem after_cons (m : Manager) (c : Call) (calls : List Call) :
    m.after (c :: calls) = (m.next c).after calls := rfl

@[simp] theorem after_append (m : Manager) (calls later : List Call) :
    m.after (calls ++ later) = (m.after calls).after later :=
  List.foldl_append

/-- The contexts that the calls of a run are about. -/
def contextsOf (calls : List Call) : List String :=
  calls.filterMap (·.request.context?)

/-- In the course of a call the manager opens a license for a context anew: the call is about the
context, no license is kept for it that is young enough, and opening one succeeds. -/
structure Opens (m : Manager) (c : Call) (context : String) (l : License) : Prop where
  context_eq : c.request.context? = some context
  kept?_eq : m.kept? c.readings.lookup context = none
  load_eq : m.load c.sources context = .ok l

theorem Opens.request_ne {m : Manager} {c : Call} {context : String} {l : License}
    (h : m.Opens c context l) : c.request ≠ .clearCache := by
  intro cleared
  have about := h.context_eq
  simp [cleared, Request.context?] at about

theorem Opens.context_unique {m : Manager} {c : Call} {context other : String} {l l' : License}
    (h : m.Opens c context l) (h' : m.Opens c other l') : context = other :=
  Option.some.inj (h.context_eq.symm.trans h'.context_eq)

theorem Opens.context_mem {m : Manager} {c : Call} {context : String} {l : License}
    (h : m.Opens c context l) {calls : List Call} (hc : c ∈ calls) :
    context ∈ contextsOf calls :=
  List.mem_filterMap.mpr ⟨c, hc, h.context_eq⟩

/-! ### One call -/

/-- A license is opened if the surroundings have a signed one and a key that loads, with which it
opens. -/
theorem load_eq_ok_iff {m : Manager} {sources : Sources} {context : String} {l : License} :
    m.load sources context = .ok l ↔
      ∃ s, sources.signed context = .ok (some s) ∧
        ∃ encoding, sources.publicKey = .ok encoding ∧ encoding ≠ [] ∧
          ∃ key, PublicKey.load encoding = .ok key ∧
            s.unseal key (Bytes.ofText m.config.passphrase) = .ok l := by
  simp only [load, bind_eq_ok_iff]
  constructor
  · rintro ⟨found, hs, opened⟩
    cases found with
    | none => cases opened
    | some s =>
      simp only [bind_eq_ok_iff] at opened
      obtain ⟨encoding, he, opened⟩ := opened
      cases encoding with
      | nil => cases opened
      | cons first rest =>
        exact ⟨s, hs, _, he, List.cons_ne_nil _ _, by simpa [bind_eq_ok_iff] using opened⟩
  · rintro ⟨s, hs, encoding, he, present, key, hk, opened⟩
    refine ⟨some s, hs, ?_⟩
    simp [bind_eq_ok_iff, he, present, hk, opened]

/-- The kept license of a context is one that is kept under its digest and is young enough. -/
theorem kept?_eq_some_iff {m : Manager} {now : Instant} {context : String} {l : License} :
    m.kept? now context = some l ↔
      ∃ e, m.cache.find? context = some e ∧ m.isFresh e now = true ∧ e.license = l := by
  unfold kept?
  rcases m.cache.find? context with _ | e
  · simp
  · by_cases fresh : m.isFresh e now = true <;> simp [fresh]

/-- What is kept for a context is given if it is young enough. -/
theorem kept?_of_find? {m : Manager} {context : String} {e : CacheEntry}
    (found : m.cache.find? context = some e) (now : Instant) :
    m.kept? now context = if m.isFresh e now = true then some e.license else none := by
  simp only [kept?, found]

/-- Every call about a context leaves behind what looking up its license leaves behind. -/
theorem next_of_context {m : Manager} {c : Call} {context : String}
    (h : c.request.context? = some context) :
    m.next c = (m.get c.sources c.readings.lookup context).manager := by
  obtain ⟨request, sources, readings⟩ := c
  cases request <;> cases h <;> rfl

theorem next_clearCache {m : Manager} {c : Call} (h : c.request = .clearCache) :
    m.next c = m.clearCache := by
  simp only [next, perform, h]

/-- All that looking up a license can come to: it is kept and young enough, it is opened anew and
kept from now on, or opening it fails. -/
theorem get_cases (m : Manager) (sources : Sources) (now : Instant) (context : String) :
    (∃ l, m.kept? now context = some l ∧ m.get sources now context = ⟨.ok l, 0, m⟩) ∨
    (∃ l, m.kept? now context = none ∧ m.load sources context = .ok l ∧
      m.get sources now context =
        ⟨.ok l, 1, { m with cache := m.cache.insert context ⟨l, now⟩ }⟩) ∨
    (∃ e, m.kept? now context = none ∧ m.load sources context = .error e ∧
      m.get sources now context = ⟨.error e, 1, m⟩) := by
  rcases hk : m.kept? now context with _ | l
  · rcases hl : m.load sources context with e | l
    · exact .inr (.inr ⟨e, rfl, rfl, by simp only [get, hk, hl]⟩)
    · exact .inr (.inl ⟨l, rfl, rfl, by simp only [get, hk, hl]⟩)
  · exact .inl ⟨l, rfl, by simp only [get, hk]⟩

/-- All that a call can do to the licenses that are kept: it drops them, it opens one anew, which is
kept with the time at which the call began, or it leaves them alone. -/
theorem next_cases (m : Manager) (c : Call) :
    (c.request = .clearCache ∧ m.next c = m.clearCache) ∨
    (∃ context l, m.Opens c context l ∧
      m.next c = { m with cache := m.cache.insert context ⟨l, c.readings.lookup⟩ }) ∨
    (c.request ≠ .clearCache ∧ (∀ context l, ¬ m.Opens c context l) ∧ m.next c = m) := by
  rcases hc : c.request.context? with _ | context
  · have cleared : c.request = .clearCache := by
      cases hr : c.request <;> simp [Request.context?, hr] at hc ⊢
    exact .inl ⟨cleared, next_clearCache cleared⟩
  · have about : c.request ≠ .clearCache := by
      intro h
      simp [Request.context?, h] at hc
    have same : ∀ {other l}, m.Opens c other l → other = context := fun h =>
      Option.some.inj (h.context_eq.symm.trans hc)
    rw [next_of_context hc]
    rcases m.get_cases c.sources c.readings.lookup context with
      ⟨l, hk, eq⟩ | ⟨l, hk, hl, eq⟩ | ⟨e, hk, hl, eq⟩ <;> rw [eq]
    · refine .inr (.inr ⟨about, fun other l' h => ?_, rfl⟩)
      obtain rfl := same h
      cases hk.symm.trans h.kept?_eq
    · exact .inr (.inl ⟨context, l, ⟨hc, hk, hl⟩, rfl⟩)
    · refine .inr (.inr ⟨about, fun other l h => ?_, rfl⟩)
      obtain rfl := same h
      cases hl.symm.trans h.load_eq

/-- A call that neither drops what is kept nor opens a license changes nothing. -/
theorem next_of_not_opens {m : Manager} {c : Call} (kept : c.request ≠ .clearCache)
    (none : ∀ context l, ¬ m.Opens c context l) : m.next c = m := by
  rcases m.next_cases c with ⟨cleared, -⟩ | ⟨context, l, opens, -⟩ | ⟨-, -, eq⟩
  · exact absurd cleared kept
  · exact absurd opens (none context l)
  · exact eq

/-! ### Runs -/

@[simp] theorem next_config (m : Manager) (c : Call) : (m.next c).config = m.config := by
  rcases m.next_cases c with ⟨-, h⟩ | ⟨_, _, -, h⟩ | ⟨-, -, h⟩ <;> rw [h]
  rfl

/-- No run changes the configuration. -/
@[simp] theorem after_config (m : Manager) (calls : List Call) :
    (m.after calls).config = m.config := by
  induction calls generalizing m with
  | nil => rfl
  | cons c calls ih => rw [after_cons, ih, next_config]

end Manager

end Licensing
