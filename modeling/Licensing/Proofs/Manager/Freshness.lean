import Licensing.Proofs.Manager.Provenance

/-!
# How long a license is served

A manager serves a license that it keeps for as long as the whole milliseconds since it was opened
are neither negative nor as many as licenses are to be kept. Both counts leave out a part of a
millisecond, so at either end this is not the time for which a license is to be kept.

## Main definitions

* `Manager.Serves` — a license is given without asking for a signed one.
* `Manager.ServedTooEarly`, `Manager.ServedTooShort` — where counting whole milliseconds is not
  exact.
* `Manager.ServesByMillis` — when a license that is kept is served.

## Main results

* `Manager.servesByMillis_of_kept` — licenses are served by whole milliseconds.
* `Manager.not_served_exactly` — neither are they served from the time at which they were opened
  on, nor for as long as they are to be kept.
-/

namespace Licensing.Manager

/-- Whatever the surroundings answer, a manager gives a license for a context without asking for a
signed one, and is left as it was. -/
def Serves (m : Manager) (now : Instant) (context : String) (l : License) : Prop :=
  ∀ sources, m.get sources now context = ⟨.ok l, 0, m⟩

/-- A license is served at a time before it was opened: the part of a millisecond by which the clock
was set back does not count. Licenses that are kept for no whole millisecond are never served. -/
def ServedTooEarly (ttl : Nat) (age : Int) : Prop :=
  1000000 ≤ ttl ∧ -1000000 < age ∧ age < 0

/-- A license is not served any more although it is to be kept: only a part of a millisecond is
left. -/
def ServedTooShort (ttl : Nat) (age : Int) : Prop :=
  1000000 * (ttl / 1000000 : Nat) ≤ age ∧ age < ttl

/-- A manager serves a license for a context by the whole milliseconds since it was opened. -/
structure ServesByMillis (m : Manager) (context : String) (e : CacheEntry) (now : Instant) :
    Prop where
  served_iff : m.Serves now context e.license ↔
    1000000 ≤ m.config.cacheTtl ∧ -1000000 < now.since e.openedAt ∧
      now.since e.openedAt < 1000000 * (m.config.cacheTtl / 1000000 : Nat)
  /-- If the license is not served, it is opened anew. -/
  opened_anew : ¬ m.Serves now context e.license → ∀ sources,
    (m.get sources now context).loads = 1 ∧
      (m.get sources now context).result = m.load sources context
  /-- The license is served exactly while it is younger than it is to be kept, but for less than a
  millisecond at either end. -/
  exact_iff : (m.Serves now context e.license ↔
      0 ≤ now.since e.openedAt ∧ now.since e.openedAt < m.config.cacheTtl) ↔
    ¬ ServedTooEarly m.config.cacheTtl (now.since e.openedAt) ∧
      ¬ ServedTooShort m.config.cacheTtl (now.since e.openedAt)
  /-- Between clock readings a whole number of milliseconds apart, and for licenses that are to be
  kept for a whole number of them, nothing is lost. -/
  exact_of_dvd : 1000000 ∣ m.config.cacheTtl → 1000000 ∣ now.since e.openedAt →
    (m.Serves now context e.license ↔
      0 ≤ now.since e.openedAt ∧ now.since e.openedAt < m.config.cacheTtl)

/-- The whole milliseconds of an age are neither negative nor as many as those of a length of time
from less than a millisecond before the start until the last of these is over. -/
theorem tdiv_in_iff {ttl : Nat} {age : Int} :
    0 ≤ age.tdiv 1000000 ∧ age.tdiv 1000000 < (ttl : Int) / 1000000 ↔
      1000000 ≤ ttl ∧ -1000000 < age ∧ age < 1000000 * (ttl / 1000000 : Nat) := by
  -- Cutting off a part of a millisecond makes a negative age larger.
  have truncated : age.tdiv 1000000 =
      age / 1000000 + if 0 ≤ age ∨ 1000000 ∣ age then 0 else 1 := Int.tdiv_eq_ediv
  rw [truncated]
  split <;> omega

/-! ### Licenses that are kept -/

variable {m : Manager} {context : String} {e : CacheEntry} {now : Instant}

/-- A license is served if it is kept and young enough. -/
theorem serves_iff_kept? {l : License} : m.Serves now context l ↔ m.kept? now context = some l := by
  constructor
  · intro serves
    have given := serves silent
    rcases m.get_cases silent now context with
      ⟨_, kept, eq⟩ | ⟨_, -, -, eq⟩ | ⟨_, -, -, eq⟩ <;> rw [eq] at given <;> cases given
    exact kept
  · intro kept sources
    simp only [get, kept]

theorem serves_iff_isFresh (found : m.cache.find? context = some e) :
    m.Serves now context e.license ↔ m.isFresh e now = true := by
  rw [serves_iff_kept?, kept?_of_find? found]
  simp

/-- A license that is kept but is not young enough is opened anew. -/
theorem get_of_not_serves (found : m.cache.find? context = some e)
    (h : ¬ m.Serves now context e.license) (sources : Sources) :
    (m.get sources now context).loads = 1 ∧
      (m.get sources now context).result = m.load sources context := by
  rcases m.get_cases sources now context with
    ⟨_, kept, -⟩ | ⟨_, -, opened, eq⟩ | ⟨_, -, failed, eq⟩
  · obtain ⟨_, same, -, rfl⟩ := kept?_eq_some_iff.mp kept
    cases found.symm.trans same
    exact absurd (serves_iff_kept?.mpr kept) h
  · rw [eq, opened]
    exact ⟨rfl, rfl⟩
  · rw [eq, failed]
    exact ⟨rfl, rfl⟩

theorem servesByMillis_of_find? (found : m.cache.find? context = some e) (now : Instant) :
    m.ServesByMillis context e now := by
  have served : m.Serves now context e.license ↔
      1000000 ≤ m.config.cacheTtl ∧ -1000000 < now.since e.openedAt ∧
        now.since e.openedAt < 1000000 * (m.config.cacheTtl / 1000000 : Nat) := by
    rw [serves_iff_isFresh found, isFresh_iff]
    exact tdiv_in_iff
  refine ⟨served, get_of_not_serves found, ?_, ?_⟩ <;> rw [served]
  · simp only [ServedTooEarly, ServedTooShort]
    omega
  · omega

/-! ### Runs -/

/-- **Licenses for how long.** A license that is kept for a context, be it after a run that opened
it and then left it alone, is served from less than a millisecond before the time at which it was
opened until the last whole millisecond is over for which licenses are to be kept; otherwise it is
opened anew. So it is served exactly while it is younger than it is to be kept, but for less than a
millisecond at either end, and without exception if only whole milliseconds occur. -/
theorem servesByMillis_of_kept (m : Manager) (context : String) (e : CacheEntry) (now : Instant) :
    (m.cache.find? context = some e → m.ServesByMillis context e now) ∧
      ∀ calls, m.OpenedUnder calls context e → (m.after calls).ServesByMillis context e now :=
  ⟨fun found => servesByMillis_of_find? found now,
    fun _ opened => servesByMillis_of_find? (find?_of_openedUnder opened) now⟩

/-! ### Runs that open the specimen -/

/-- A run of one call opens the specimen, at whatever time. -/
theorem exists_openedUnder_specimen (config : Config) (t : Instant)
    (short : (Bytes.ofText config.passphrase).length < 0x100000000) :
    ∃ calls, (fresh config Validator.dates).OpenedUnder calls "a" ⟨License.specimen, t⟩ := by
  obtain ⟨s, loads⟩ := exists_load_specimen config.passphrase short
  have opened := loads (fresh config Validator.dates) ⟨fun _ => .ok (some s), .ok _⟩ "a" rfl rfl rfl
  exact ⟨[⟨.get "a", _, .constant t⟩], [], _, [], "a", rfl, rfl, ⟨rfl, rfl, opened⟩, rfl,
    fun _ _ => trivial⟩

/-- A license opened seven seconds after the start of 1970, to be kept for five minutes, is served
for five minutes less a nanosecond and no longer, also a nanosecond before it was opened, but not a
second before. -/
theorem servesByMillis_of_kept_specimen :
    let m := fresh (.standard "product" "store") Validator.dates
    ∃ calls, m.OpenedUnder calls "a" ⟨License.specimen, ⟨7, 0⟩⟩ ∧
      (m.after calls).cache.find? "a" = some ⟨License.specimen, ⟨7, 0⟩⟩ ∧
      (m.after calls).Serves ⟨306, 999999999⟩ "a" License.specimen ∧
      ¬ (m.after calls).Serves ⟨307, 0⟩ "a" License.specimen ∧
      (m.after calls).Serves ⟨6, 999999999⟩ "a" License.specimen ∧
      ¬ (m.after calls).Serves ⟨6, 0⟩ "a" License.specimen := by
  intro m
  obtain ⟨calls, opened⟩ := exists_openedUnder_specimen (.standard "product" "store") ⟨7, 0⟩
    (by decide)
  have found : (m.after calls).cache.find? "a" = some ⟨License.specimen, ⟨7, 0⟩⟩ :=
    find?_of_openedUnder opened
  have ttl : (m.after calls).config.cacheTtl = 300000000000 := by
    rw [after_config]
    rfl
  have kept (now : Instant) := (servesByMillis_of_kept (m.after calls) "a" _ now).1 found
  have after (now : Instant) := (servesByMillis_of_kept m "a" _ now).2 calls opened
  refine ⟨calls, opened, found, (kept _).served_iff.mpr ?_, mt (kept _).served_iff.mp ?_,
    (after _).served_iff.mpr ?_, mt (after _).served_iff.mp ?_⟩ <;> rw [ttl] <;> decide

/-- A license is not served exactly while it is younger than it is to be kept: the clock can be set
back by a microsecond after it was opened, and a license that is to be kept for a millisecond and a
half is opened anew before that. -/
theorem not_served_exactly :
    (¬ ∀ (config : Config) validator calls context e,
      (fresh config validator).OpenedUnder calls context e → ∀ now : Instant,
        ((fresh config validator).after calls).Serves now context e.license →
          0 ≤ now.since e.openedAt) ∧
    ¬ ∀ (config : Config) validator calls context e,
      (fresh config validator).OpenedUnder calls context e → ∀ now : Instant,
        0 ≤ now.since e.openedAt → now.since e.openedAt < config.cacheTtl →
          ((fresh config validator).after calls).Serves now context e.license := by
  constructor
  · intro notEarly
    let config := Config.standard "product" "store"
    obtain ⟨calls, opened⟩ := exists_openedUnder_specimen config ⟨7, 0⟩ (by decide)
    have served : ((fresh config Validator.dates).after calls).Serves ⟨6, 999999000⟩ "a"
        License.specimen := by
      refine (servesByMillis_of_find? (find?_of_openedUnder opened) _).served_iff.mpr ?_
      rw [after_config]
      decide
    exact absurd (notEarly _ _ _ _ _ opened _ served) (by decide)
  · intro untilTheEnd
    let config := { Config.standard "product" "store" with cacheTtl := 1500000 }
    obtain ⟨calls, opened⟩ := exists_openedUnder_specimen config ⟨7, 0⟩ (by decide)
    have served := untilTheEnd _ _ _ _ _ opened ⟨7, 1200000⟩ (by decide) (by decide)
    have few := (servesByMillis_of_find? (find?_of_openedUnder opened) _).served_iff.mp served
    rw [after_config] at few
    exact absurd few (by decide)

end Licensing.Manager
