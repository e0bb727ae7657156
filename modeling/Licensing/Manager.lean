import Licensing.Bytes.Base64
import Licensing.Config
import Licensing.License.Restriction
import Licensing.License.Validity
import Licensing.SignedLicense
import Licensing.Table
import Licensing.Time.Instant

/-!
# License managers

A manager answers for a product what its licenses allow. It opens the signed license of a context
and keeps it for some time, so that not every question opens it again.

## Main definitions

* `Sources` — what a manager asks its surroundings for.
* `Readings` — the times that the clock shows in the course of one question.
* `Manager` — the configuration, the check of licenses, and the licenses that are kept.
* `Answer` — an answer, how often it needed a signed license, and the manager after it.
* `Manager.get`, `Manager.coversAll`, `Manager.coversAny`, `Manager.check` — the questions.

## Implementation notes

Licenses are kept by the digests of their contexts. A license that is kept has the time at which the
question that opened it began; a question that finds it does not change that time.
-/

namespace Licensing

/-- What a manager asks its surroundings for. -/
structure Sources where
  /-- The signed license of a context, if there is one. -/
  signed : String → Except Error (Option SignedLicense)
  /-- The encoding of the verifying key. -/
  publicKey : Except Error Bytes

/-- The times that the clock shows in the course of one question. -/
structure Readings where
  /-- When the license is looked up. -/
  lookup : Instant
  /-- When the license is checked. -/
  validation : Instant
  /-- When its features are looked at. -/
  features : Instant
  deriving DecidableEq, Repr

/-- The clock shows the same time in the course of a question. -/
def Readings.constant (now : Instant) : Readings :=
  ⟨now, now, now⟩

/-- A license that is kept. -/
structure CacheEntry where
  license : License
  /-- When the question began that opened the license. -/
  openedAt : Instant
  deriving DecidableEq, Repr

/-- The milliseconds since a kept license was opened. A part of a millisecond does not count. -/
def CacheEntry.age (e : CacheEntry) (now : Instant) : Int :=
  (now.since e.openedAt).tdiv 1000000

/-- The licenses that are kept, by the digests of their contexts. -/
abbrev Cache : Type :=
  Table CacheEntry

namespace Cache

/-- The digest of a context. -/
def key (context : String) : String :=
  Base64.encode (Sha256.digest (Bytes.ofText context))

/-- The license that is kept for a context. -/
def find? (cache : Cache) (context : String) : Option CacheEntry :=
  Table.find? cache (key context)

/-- One license more, in the place of an earlier one of the context. -/
def insert (cache : Cache) (context : String) (e : CacheEntry) : Cache :=
  Table.insert cache (key context) e

/-- A license that is kept for a context is found for it, and others are found as before. -/
theorem find?_insert (cache : Cache) (context other : String) (e : CacheEntry) :
    (cache.insert context e).find? other =
      if key other = key context then some e else cache.find? other :=
  Table.find?_insert cache (key context) (key other) e

end Cache

/-- What answers for a product what its licenses allow. -/
structure Manager where
  config : Config
  validator : Validator
  cache : Cache

/-- An answer of a manager. -/
structure Answer (α : Type) where
  result : Except Error α
  /-- How often a signed license was asked for. -/
  loads : Nat
  /-- The manager after the answer. -/
  manager : Manager

/-- The answer after one more step, which can fail. -/
def Answer.andThen {α β : Type} (a : Answer α) (f : α → Except Error β) : Answer β :=
  ⟨a.result.bind f, a.loads, a.manager⟩

namespace Manager

/-- The manager of a configuration, which checks the dates of licenses and keeps none yet. -/
def ofConfig (config : Config) : Except Error Manager := do
  config.check
  return ⟨config, Validator.dates, []⟩

/-- The manager with another check of licenses. -/
def withValidator (m : Manager) (validator : Validator) : Manager :=
  { m with validator }

/-- A kept license is young enough to be used. -/
def isFresh (m : Manager) (e : CacheEntry) (now : Instant) : Bool :=
  0 ≤ e.age now && e.age now < m.config.cacheTtl / 1000000

/-- The license of a context, opened anew. -/
def load (m : Manager) (sources : Sources) (context : String) : Except Error License := do
  match ← sources.signed context with
  | none => throw (.licenseNotFound context)
  | some s =>
    let encoding ← sources.publicKey
    if encoding.isEmpty then throw (.keyNotFound "public key data is empty")
    let key ← PublicKey.load encoding
    s.unseal key (Bytes.ofText m.config.passphrase)

/-- The kept license of a context, if it is young enough. -/
def kept? (m : Manager) (now : Instant) (context : String) : Option License :=
  match m.cache.find? context with
  | some e => if m.isFresh e now then some e.license else none
  | none => none

/-- The license of a context: the kept one, or one opened anew, which is kept from now on. -/
def get (m : Manager) (sources : Sources) (now : Instant) (context : String) : Answer License :=
  match m.kept? now context with
  | some l => ⟨.ok l, 0, m⟩
  | none =>
    match m.load sources context with
    | .ok l => ⟨.ok l, 1, { m with cache := m.cache.insert context ⟨l, now⟩ }⟩
    | .error e => ⟨.error e, 1, m⟩

/-- Fails unless a license passes the check of the manager. -/
def validate (m : Manager) (now : Instant) (l : License) : Except Error Unit :=
  m.validator l now.toDate

/-- The license of a context, if it passes the check of the manager. -/
def validLicense (m : Manager) (sources : Sources) (t : Readings) (context : String) :
    Answer License :=
  (m.get sources t.lookup context).andThen fun l => do
    m.validate t.validation l
    return l

/-- Whether the license of a context covers every one of the names. -/
def coversAll (m : Manager) (sources : Sources) (t : Readings) (context : String)
    (names : List String) : Answer Bool :=
  (m.validLicense sources t context).andThen fun l => .ok (l.coversAll t.features.toDate names)

/-- Whether the license of a context covers one of the names. -/
def coversAny (m : Manager) (sources : Sources) (t : Readings) (context : String)
    (names : List String) : Answer Bool :=
  (m.validLicense sources t context).andThen fun l => .ok (l.coversAny t.features.toDate names)

/-- Fails unless the license of a context meets a restriction. -/
def check (m : Manager) (sources : Sources) (t : Readings) (context : String) (r : Restriction) :
    Answer Unit :=
  (m.validLicense sources t context).andThen fun l => r.check l t.features.toDate

/-- The manager that keeps no licenses. -/
def clearCache (m : Manager) : Manager :=
  { m with cache := [] }

/-- The manager as diagnostics show it. -/
def describe (m : Manager) : String :=
  Text.record "LicenseManager" false [("config", m.config.describe)]

end Manager

end Licensing
