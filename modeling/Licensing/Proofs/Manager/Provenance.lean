import Licensing.Proofs.Context
import Licensing.Proofs.Issue
import Mathlib.Data.List.Induction

/-!
# Where the licenses of a manager come from

A license that a manager gives for a context was opened for this context, either in the course of
the same call or in an earlier one, and then not so long ago that it could not be used any more.

## Main definitions

* `Manager.Undisturbed` — no call of a run drops what is kept or opens a license for a context.
* `Manager.OpenedUnder` — what opened a license that is kept.

## Main results

* `Manager.openedUnder_of_find?` — all that is kept was opened in the course of the run.
* `Manager.find?_of_openedUnder` — a license is kept if a run opened it and then left it alone.
* `Manager.get_provenance` — what opened a license that is given.

## Implementation notes

The invariant is about the names under which licenses are kept, which are digests. That no two
contexts of the run share one enters at the very end only.
-/

namespace Licensing.Manager

/-- No call of a run drops what is kept, and none opens a license for a context. -/
def Undisturbed (m : Manager) (context : String) : List Call → Prop
  | [] => True
  | c :: calls =>
    c.request ≠ .clearCache ∧ (∀ l, ¬ m.Opens c context l) ∧
      (m.next c).Undisturbed context calls

theorem undisturbed_concat {m : Manager} {context : String} {calls : List Call} {c : Call} :
    m.Undisturbed context (calls ++ [c]) ↔
      m.Undisturbed context calls ∧ c.request ≠ .clearCache ∧
        ∀ l, ¬ (m.after calls).Opens c context l := by
  induction calls generalizing m with
  | nil => simp [Undisturbed]
  | cons d calls ih =>
    simp only [List.cons_append, Undisturbed, ih, after_cons]
    tauto

/-- A license is young enough if the whole milliseconds since it was opened are neither negative nor
as many as it is to be kept. -/
theorem isFresh_iff {m : Manager} {e : CacheEntry} {now : Instant} :
    m.isFresh e now = true ↔
      0 ≤ (now.since e.openedAt).tdiv 1000000 ∧
        (now.since e.openedAt).tdiv 1000000 < m.config.cacheTtl / 1000000 := by
  simp only [isFresh, Bool.and_eq_true, decide_eq_true_eq]
  exact Iff.rfl

/-- A run opened a license under the digest of a context, by a call about a context with this digest
that began when the entry says; since then nothing kept was dropped, and no license was opened under
the digest. -/
def OpenedUnder (m : Manager) (calls : List Call) (context : String) (e : CacheEntry) : Prop :=
  ∃ before c later other, calls = before ++ c :: later ∧ Cache.key other = Cache.key context ∧
    (m.after before).Opens c other e.license ∧ c.readings.lookup = e.openedAt ∧
    ∀ third, Cache.key third = Cache.key context →
      (m.after (before ++ [c])).Undisturbed third later

/-- A call that leaves the digest alone adds nothing to what opened the license. -/
theorem OpenedUnder.concat {m : Manager} {calls : List Call} {context : String} {e : CacheEntry}
    (h : m.OpenedUnder calls context e) {d : Call} (kept : d.request ≠ .clearCache)
    (none : ∀ other, Cache.key other = Cache.key context → ∀ l, ¬ (m.after calls).Opens d other l) :
    m.OpenedUnder (calls ++ [d]) context e := by
  obtain ⟨before, c, later, other, rfl, key, opens, time, rest⟩ := h
  refine ⟨before, c, later ++ [d], other, by simp, key, opens, time, fun third hthird => ?_⟩
  refine undisturbed_concat.mpr ⟨rest third hthird, kept, fun l => ?_⟩
  simpa using none third hthird l

/-- All that a manager keeps was opened in the course of the run. -/
theorem openedUnder_of_find? {config : Config} {validator : Validator} {calls : List Call}
    {context : String} {e : CacheEntry}
    (h : ((fresh config validator).after calls).cache.find? context = some e) :
    (fresh config validator).OpenedUnder calls context e := by
  -- The last call either settles what is kept under the digest, or leaves it as it was before.
  induction calls using List.reverseRecOn with
  | nil => cases h
  | append_singleton calls d ih =>
    rw [after_append, after_cons, after_nil] at h
    rcases next_cases ((fresh config validator).after calls) d with
      ⟨-, eq⟩ | ⟨opened, l, opens, eq⟩ | ⟨kept, none, eq⟩
    · rw [eq] at h
      cases h
    · rw [eq] at h
      change Cache.find? (Cache.insert _ opened _) context = some e at h
      rw [Cache.find?_insert] at h
      split at h
      · next key =>
        cases h
        exact ⟨calls, d, [], opened, rfl, key.symm, opens, rfl, fun _ _ => trivial⟩
      · next key =>
        refine (ih h).concat opens.request_ne fun other hother l' again => key ?_
        rw [← hother, again.context_unique opens]
    · rw [eq] at h
      exact (ih h).concat kept fun other _ l => none other l

/-! ### What a run leaves alone -/

variable {m : Manager} {context : String} {e : CacheEntry}

/-- A call that neither drops what is kept nor opens a license under the digest of a context leaves
alone what is kept for the context. -/
theorem find?_next {c : Call} (kept : c.request ≠ .clearCache)
    (none : ∀ other, Cache.key other = Cache.key context → ∀ l, ¬ m.Opens c other l) :
    (m.next c).cache.find? context = m.cache.find? context := by
  rcases m.next_cases c with ⟨cleared, -⟩ | ⟨opened, l, opens, eq⟩ | ⟨-, -, eq⟩
  · exact absurd cleared kept
  · have key : ¬ Cache.key context = Cache.key opened := fun key => none opened key.symm l opens
    rw [eq]
    exact (Cache.find?_insert ..).trans (if_neg key)
  · rw [eq]

/-- So does a run of such calls. -/
theorem find?_after {calls : List Call}
    (rest : ∀ other, Cache.key other = Cache.key context → m.Undisturbed other calls) :
    (m.after calls).cache.find? context = m.cache.find? context := by
  induction calls generalizing m with
  | nil => rfl
  | cons c calls ih =>
    have kept : c.request ≠ .clearCache := (rest context rfl).1
    have next : (m.next c).cache.find? context = m.cache.find? context :=
      find?_next kept fun other key => (rest other key).2.1
    rw [after_cons, ih fun other key => (rest other key).2.2, next]

/-- What a call opens is kept for every context with the digest. -/
theorem Opens.find?_next {c : Call} {other : String} {l : License} (opens : m.Opens c other l)
    (key : Cache.key other = Cache.key context) :
    (m.next c).cache.find? context = some ⟨l, c.readings.lookup⟩ := by
  rcases m.next_cases c with ⟨cleared, -⟩ | ⟨opened, l', again, eq⟩ | ⟨-, none, -⟩
  · exact absurd cleared opens.request_ne
  · obtain rfl := again.context_unique opens
    obtain rfl : l' = l := Except.ok.inj (again.load_eq.symm.trans opens.load_eq)
    rw [eq]
    exact (Cache.find?_insert ..).trans (if_pos key.symm)
  · exact absurd opens (none other l)

/-- A license is kept if a run opened it and then left it alone. -/
theorem find?_of_openedUnder {calls : List Call} (h : m.OpenedUnder calls context e) :
    (m.after calls).cache.find? context = some e := by
  obtain ⟨before, c, later, other, rfl, key, opens, time, rest⟩ := h
  have opened : ((m.after before).next c).cache.find? context = some e := by
    rw [opens.find?_next key, time]
  have left : ∀ third, Cache.key third = Cache.key context →
      ((m.after before).next c).Undisturbed third later := by simpa using rest
  rw [after_append, after_cons, find?_after left, opened]

/-! ### A run that opens a license twice -/

/-- The manager of a product, which keeps licenses for five minutes. -/
def specimen : Manager :=
  fresh (.standard "product" "store") Validator.dates

/-- Surroundings that have no license. -/
def silent : Sources :=
  ⟨fun _ => .ok none, .ok []⟩

/-- The licenses of two contexts are opened. The first one is given again a nanosecond before it has
been kept for five minutes, without being opened. -/
def visits (sources : Sources) : List Call :=
  [⟨.get "a", sources, .constant ⟨7, 0⟩⟩, ⟨.get "b", sources, .constant ⟨9, 0⟩⟩,
   ⟨.get "a", silent, .constant ⟨306, 999999999⟩⟩]

/-- After five minutes the first license is opened again. -/
def visitsAgain (sources : Sources) : List Call :=
  visits sources ++ [⟨.get "a", sources, .constant ⟨307, 0⟩⟩]

set_option maxRecDepth 20000 in
theorem distinguished_a_b : Context.Distinguished ["a", "b"] := by decide

theorem isFresh_after_specimen {calls : List Call} {l : License} {t now : Instant} :
    (specimen.after calls).isFresh ⟨l, t⟩ now = true ↔
      0 ≤ (now.since t).tdiv 1000000 ∧ (now.since t).tdiv 1000000 < 300000 := by
  rw [isFresh_iff, after_config]
  exact Iff.rfl

section

variable {sources : Sources} {l : License}
  (opens : ∀ calls context, (specimen.after calls).load sources context = .ok l)

include opens

theorem openedUnder_visits : specimen.OpenedUnder (visits sources) "a" ⟨l, ⟨7, 0⟩⟩ := by
  refine ⟨[], _, _, "a", rfl, rfl, ⟨rfl, rfl, opens [] "a"⟩, rfl, fun third key => ?_⟩
  refine ⟨nofun, fun _ second => ?_, nofun, fun _ again => ?_, trivial⟩
  · obtain rfl : "b" = third := Option.some.inj second.context_eq
    exact absurd (distinguished_a_b.eq_of_key (.tail _ (.head _)) (.head _) key) (by decide)
  · cases again.load_eq

theorem openedUnder_visitsAgain :
    specimen.OpenedUnder (visitsAgain sources) "a" ⟨l, ⟨307, 0⟩⟩ := by
  have old : (specimen.after (visits sources)).kept? ⟨307, 0⟩ "a" = none := by
    rw [kept?_of_find? (find?_of_openedUnder (openedUnder_visits opens)), if_neg]
    rw [isFresh_after_specimen]
    decide
  exact ⟨visits sources, _, [], "a", rfl, rfl, ⟨rfl, old, opens _ "a"⟩, rfl, fun _ _ => trivial⟩

end

/-- Surroundings that have a signed license and the key for it. -/
theorem exists_sources_specimen :
    ∃ sources, ∀ calls context,
      (specimen.after calls).load sources context = .ok License.specimen := by
  obtain ⟨s, loads⟩ := exists_load_specimen specimen.config.passphrase (by decide)
  refine ⟨⟨fun _ => .ok (some s), .ok (PublicKey.ofSeed (List.replicate 32 7)).der⟩, ?_⟩
  exact fun calls context => loads _ _ context (by rw [after_config]) rfl rfl

/-! ### The licenses that are given -/

/-- **Licenses from where.** After every run of a new manager, a license that is given for a context
was opened for this context, in the course of this call or of an earlier one. In the latter case the
whole milliseconds since the earlier call began are neither negative nor as many as licenses are to
be kept, and since then nothing kept was dropped and no license was opened for the context. Giving a
license that is kept leaves the manager as it was, and so does failing to give one; the same holds
of every call, whatever it asks, that neither opens a license nor drops what is kept. -/
theorem get_provenance (config : Config) (validator : Validator) (calls : List Call)
    (sources : Sources) (now : Instant) (context : String)
    (distinguished : Context.Distinguished (context :: contextsOf calls)) :
    let start := fresh config validator
    let m := start.after calls
    (∀ l, (m.get sources now context).result = .ok l →
      (m.kept? now context = none ∧ m.load sources context = .ok l) ∨
      ∃ before c later, calls = before ++ c :: later ∧
        (start.after before).Opens c context l ∧
        0 ≤ (now.since c.readings.lookup).tdiv 1000000 ∧
        (now.since c.readings.lookup).tdiv 1000000 < config.cacheTtl / 1000000 ∧
        (start.after (before ++ [c])).Undisturbed context later) ∧
    (m.kept? now context ≠ none → (m.get sources now context).manager = m) ∧
    (∀ e, (m.get sources now context).result = .error e →
      (m.get sources now context).manager = m) ∧
    (∀ c : Call, c.request ≠ .clearCache → (∀ other l, ¬ m.Opens c other l) → m.next c = m) := by
  intro start m
  rcases m.get_cases sources now context with
    ⟨l, hk, eq⟩ | ⟨l, hk, hl, eq⟩ | ⟨e, hk, hl, eq⟩ <;> rw [eq]
  · refine ⟨fun l' h => .inr ?_, fun _ => rfl, fun _ _ => rfl, fun _ => next_of_not_opens⟩
    cases h
    obtain ⟨e, found, young, rfl⟩ := kept?_eq_some_iff.mp hk
    obtain ⟨before, c, later, other, split, key, opens, time, rest⟩ := openedUnder_of_find? found
    have mem : other ∈ contextsOf calls := opens.context_mem (by simp [split])
    obtain rfl := distinguished.eq_of_key (.tail _ mem) (.head _) key
    obtain ⟨began, young⟩ := isFresh_iff.mp young
    rw [← time] at began young
    rw [after_config] at young
    exact ⟨before, c, later, split, opens, began, young, rest _ rfl⟩
  · refine ⟨fun l' h => .inl ⟨hk, ?_⟩, fun h => absurd hk h, fun e h => ?_,
      fun _ => next_of_not_opens⟩
    · cases h
      exact hl
    · cases h
  · refine ⟨fun l h => ?_, fun _ => rfl, fun _ _ => rfl, fun _ => next_of_not_opens⟩
    cases h

/-- After the run the first license is given for five minutes from when it was opened last, whatever
the surroundings answer. Then it is opened anew, or nothing is given and the manager stays as it is.
Nothing is given either once nothing is kept any more. -/
theorem get_provenance_two_contexts :
    ∃ sources : Sources,
      let m := specimen.after (visitsAgain sources)
      ((m.get silent ⟨606, 999999999⟩ "a").result = .ok License.specimen ∧
        (m.get silent ⟨606, 999999999⟩ "a").manager = m ∧
        ∃ before c later, visitsAgain sources = before ++ c :: later ∧
          (specimen.after before).Opens c "a" License.specimen ∧
          (specimen.after (before ++ [c])).Undisturbed "a" later) ∧
      ((m.get sources ⟨607, 0⟩ "a").result = .ok License.specimen ∧
        m.kept? ⟨607, 0⟩ "a" = none ∧ m.load sources "a" = .ok License.specimen) ∧
      ((m.get silent ⟨607, 0⟩ "a").result = .error (.licenseNotFound "a") ∧
        (m.get silent ⟨607, 0⟩ "a").manager = m) ∧
      (m.clearCache.get silent ⟨606, 999999999⟩ "a").result = .error (.licenseNotFound "a") := by
  obtain ⟨sources, opens⟩ := exists_sources_specimen
  refine ⟨sources, ?_⟩
  intro m
  have found := find?_of_openedUnder (openedUnder_visitsAgain opens)
  have young : m.kept? ⟨606, 999999999⟩ "a" = some License.specimen := by
    rw [kept?_of_find? found, if_pos]
    rw [isFresh_after_specimen]
    decide
  have old : m.kept? ⟨607, 0⟩ "a" = none := by
    rw [kept?_of_find? found, if_neg]
    rw [isFresh_after_specimen]
    decide
  have given : (m.get silent ⟨606, 999999999⟩ "a").result = .ok License.specimen := by
    rw [get, young]
  have failed : (m.get silent ⟨607, 0⟩ "a").result = .error (.licenseNotFound "a") := by
    rw [get, old]
    rfl
  have again : (m.get sources ⟨607, 0⟩ "a").result = .ok License.specimen := by
    rw [get, old, opens _ "a"]
  have distinguished : Context.Distinguished ["a", "a", "b", "a", "a"] :=
    distinguished_a_b.mono (by decide)
  have provenance (sources' : Sources) (now : Instant) := get_provenance
    (.standard "product" "store") Validator.dates (visitsAgain sources) sources' now "a"
    distinguished
  have kept : m.kept? ⟨606, 999999999⟩ "a" ≠ none := by simp [young]
  refine ⟨⟨given, (provenance ..).2.1 kept, ?_⟩, ⟨again, old, opens _ "a"⟩,
    ⟨failed, (provenance ..).2.2.1 _ failed⟩, rfl⟩
  obtain ⟨missing, -⟩ | ⟨before, c, later, split, opened, -, -, rest⟩ := (provenance ..).1 _ given
  · exact absurd missing kept
  · exact ⟨before, c, later, split, opened, rest⟩

end Licensing.Manager
