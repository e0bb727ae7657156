import Licensing.Manager
import Licensing.Proofs.Bytes.Base64

/-!
# Contexts by their digests

Licenses are kept and stored under the digests of their contexts. What is said of two contexts in
one place rests on their digests being different.

## Main definitions

* `Context.digest` — the digest of a context.
* `Context.Distinguished` — no two of some contexts share a digest.

## Main results

* `Context.Distinguished.eq_of_key` — contexts that are told apart by digest have licenses of their
  own in a cache.
-/

namespace Licensing.Context

/-- The digest of a context. -/
def digest (context : String) : Bytes :=
  Sha256.digest (Bytes.ofText context)

/-- No two of the contexts share a digest. -/
def Distinguished (contexts : List String) : Prop :=
  ∀ context ∈ contexts, ∀ other ∈ contexts, digest context = digest other → context = other

instance (contexts : List String) : Decidable (Distinguished contexts) :=
  inferInstanceAs (Decidable (∀ context ∈ contexts, ∀ other ∈ contexts, _))

/-- The name under which a license is kept tells digests apart. -/
theorem key_eq_key_iff {context other : String} :
    Cache.key context = Cache.key other ↔ digest context = digest other :=
  Base64.encode_injective.eq_iff

theorem Distinguished.mono {contexts others : List String} (h : Distinguished contexts)
    (among : others ⊆ contexts) : Distinguished others :=
  fun context hc other ho => h context (among hc) other (among ho)

theorem Distinguished.eq_of_key {contexts : List String} (h : Distinguished contexts)
    {context other : String} (hc : context ∈ contexts) (ho : other ∈ contexts)
    (key : Cache.key context = Cache.key other) : context = other :=
  h context hc other ho (key_eq_key_iff.mp key)

end Licensing.Context
