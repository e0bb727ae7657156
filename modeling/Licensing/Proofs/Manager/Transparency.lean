import Licensing.Proofs.Context
import Licensing.Proofs.Key.Loading
import Licensing.Proofs.Manager.Run
import Licensing.Proofs.SignedLicense

/-!
# Keeping licenses cannot be noticed

As long as the surroundings of a manager give the same answers, what comes of its calls does not
depend on the licenses that it keeps, nor on how long it keeps them: it is what comes of opening the
license of each call anew.

## Main definitions

* `Manager.performAfresh` — what comes of a call to a manager that keeps no licenses.
* `Manager.outcomes` — what comes of the calls of a run.
* `Manager.Current` — what a manager keeps is what opening it anew gives.

## Main results

* `Manager.Current.perform_fst` — what comes of one call.
* `Manager.Current.next` — each call keeps what is kept current.
* `Manager.outcomes_eq_map_performAfresh` — what comes of a run.

## Implementation notes

`Manager.Current` relates the manager to the one that keeps nothing. It speaks of the contexts of
the run only, which have to be told apart by their digests.
-/

namespace Licensing

/-- A call that is about one of some contexts, or about none, and meets the given surroundings. -/
structure Call.IsAmong (c : Call) (sources : Sources) (contexts : List String) : Prop where
  sources_eq : c.sources = sources
  context_mem : ∀ context, c.request.context? = some context → context ∈ contexts

namespace Manager

/-- The license of a context, opened anew, if it passes the check of the manager. -/
def loadValid (m : Manager) (sources : Sources) (t : Readings) (context : String) :
    Except Error License := do
  let l ← m.load sources context
  m.validate t.validation l
  return l

/-- What comes of a call to a manager that keeps no licenses: each one is opened anew. -/
def performAfresh (m : Manager) (c : Call) : Outcome :=
  match c.request with
  | .get context => .license (m.load c.sources context)
  | .coversAll context names => .answer do
    let l ← m.loadValid c.sources c.readings context
    return l.coversAll c.readings.features.toDate names
  | .coversAny context names => .answer do
    let l ← m.loadValid c.sources c.readings context
    return l.coversAny c.readings.features.toDate names
  | .check context restriction => .verdict do
    let l ← m.loadValid c.sources c.readings context
    restriction.check l c.readings.features.toDate
  | .clearCache => .cleared

/-- What comes of the calls of a run, one after the other. -/
def outcomes (m : Manager) : List Call → List Outcome
  | [] => []
  | c :: calls => (m.perform c).1 :: (m.next c).outcomes calls

/-- What a manager keeps for some contexts is what opening it anew gives. -/
def Current (m : Manager) (sources : Sources) (contexts : List String) : Prop :=
  ∀ context ∈ contexts, ∀ e, m.cache.find? context = some e →
    m.load sources context = .ok e.license

variable {m : Manager} {sources : Sources} {contexts : List String}

theorem current_fresh (config : Config) (validator : Validator) :
    (fresh config validator).Current sources contexts := by
  intro context _ e found
  cases found

/-! ### One call -/

/-- Looking up a license gives what opening it anew gives. -/
theorem Current.result_get (h : m.Current sources contexts) {context : String}
    (mem : context ∈ contexts) (now : Instant) :
    (m.get sources now context).result = m.load sources context := by
  rcases m.get_cases sources now context with
    ⟨l, hk, eq⟩ | ⟨l, -, hl, eq⟩ | ⟨e, -, hl, eq⟩ <;> rw [eq]
  · obtain ⟨e, found, -, rfl⟩ := kept?_eq_some_iff.mp hk
    exact (h context mem e found).symm
  · exact hl.symm
  · exact hl.symm

theorem Current.result_validLicense (h : m.Current sources contexts) {context : String}
    (mem : context ∈ contexts) (t : Readings) :
    (m.validLicense sources t context).result = m.loadValid sources t context := by
  rw [validLicense, Answer.andThen, h.result_get mem]
  rfl

/-- What comes of a call is what comes of it when the license is opened anew. -/
theorem Current.perform_fst (h : m.Current sources contexts) {c : Call}
    (among : c.IsAmong sources contexts) : (m.perform c).1 = m.performAfresh c := by
  obtain ⟨rfl, mem⟩ := among
  obtain ⟨request, sources, readings⟩ := c
  cases request with
  | get context =>
    exact congrArg Outcome.license (h.result_get (mem context rfl) _)
  | coversAll context names =>
    refine congrArg Outcome.answer ?_
    rw [coversAll, Answer.andThen, h.result_validLicense (mem context rfl)]
    rfl
  | coversAny context names =>
    refine congrArg Outcome.answer ?_
    rw [coversAny, Answer.andThen, h.result_validLicense (mem context rfl)]
    rfl
  | check context restriction =>
    refine congrArg Outcome.verdict ?_
    rw [check, Answer.andThen, h.result_validLicense (mem context rfl)]
    rfl
  | clearCache => rfl

/-- A call keeps what is kept current: what it adds was just opened, under a digest that no other of
the contexts has. -/
theorem Current.next (h : m.Current sources contexts)
    (distinguished : Context.Distinguished contexts) {c : Call}
    (among : c.IsAmong sources contexts) : (m.next c).Current sources contexts := by
  rcases m.next_cases c with ⟨-, eq⟩ | ⟨opened, l, opens, eq⟩ | ⟨-, -, eq⟩ <;> rw [eq]
  · intro context _ e found
    cases found
  · intro context hcontext e found
    change m.load sources context = .ok e.license
    change Cache.find? (Cache.insert m.cache opened _) context = some e at found
    rw [Cache.find?_insert] at found
    split at found
    · next key =>
      cases found
      have hopened := among.context_mem opened opens.context_eq
      obtain rfl := distinguished.eq_of_key hcontext hopened key
      rw [← among.sources_eq]
      exact opens.load_eq
    · exact h context hcontext e found
  · exact h

/-- No call changes what comes of calls to a manager that keeps no licenses. -/
theorem performAfresh_next (m : Manager) (c : Call) :
    (m.next c).performAfresh = m.performAfresh := by
  rcases m.next_cases c with ⟨-, eq⟩ | ⟨_, _, -, eq⟩ | ⟨-, -, eq⟩ <;> rw [eq] <;> rfl

/-! ### Runs -/

/-- What comes of the calls of a run is what comes of each when the license is opened anew. -/
theorem Current.outcomes_eq (h : m.Current sources contexts)
    (distinguished : Context.Distinguished contexts) {calls : List Call}
    (among : ∀ c ∈ calls, c.IsAmong sources contexts) :
    m.outcomes calls = calls.map m.performAfresh := by
  induction calls generalizing m with
  | nil => rfl
  | cons c calls ih =>
    obtain ⟨first, rest⟩ := List.forall_mem_cons.mp among
    rw [outcomes, h.perform_fst first, ih (h.next distinguished first) rest, performAfresh_next,
      List.map_cons]

/-- **Keeping licenses cannot be noticed.** In every run of a new manager whose surroundings do not
change their answers, whatever the clock shows and however long licenses are kept, each call comes
to what it comes to when its license is opened anew: the same license or answer, or the same
error. -/
theorem outcomes_eq_map_performAfresh (config : Config) (validator : Validator) (sources : Sources)
    (calls : List Call) (stable : ∀ c ∈ calls, c.sources = sources)
    (distinguished : Context.Distinguished (contextsOf calls)) :
    (fresh config validator).outcomes calls =
      calls.map (fresh config validator).performAfresh := by
  have among : ∀ c ∈ calls, c.IsAmong sources (contextsOf calls) := fun c hc =>
    ⟨stable c hc, fun _ about => List.mem_filterMap.mpr ⟨c, hc, about⟩⟩
  exact (current_fresh config validator).outcomes_eq distinguished among

set_option maxRecDepth 20000 in
/-- A run about two contexts, of which the first one has a license: it is opened, found again,
dropped, and opened again after the clock was set back. -/
theorem outcomes_of_license_found_again :
    let seed : Bytes := List.replicate 32 7
    let config := Config.standard "product" "store"
    ∃ s : SignedLicense,
      let sources : Sources := ⟨fun context => .ok (if context = "a" then some s else none),
        .ok (PublicKey.ofSeed seed).der⟩
      (fresh config Validator.dates).outcomes
          [⟨.get "a", sources, .constant ⟨1700000000, 0⟩⟩,
           ⟨.coversAll "a" ["export", "print"], sources, .constant ⟨1700000001, 0⟩⟩,
           ⟨.get "b", sources, .constant ⟨1700000002, 0⟩⟩,
           ⟨.clearCache, sources, .constant ⟨1700000003, 0⟩⟩,
           ⟨.check "a" ⟨["import"], .any⟩, sources, .constant ⟨1650000000, 0⟩⟩] =
        [.license (.ok License.specimen), .answer (.ok true),
         .license (.error (.licenseNotFound "b")), .cleared,
         .verdict (.error (.featureMissing "import"))] := by
  intro seed config
  have length : seed.length = 32 := rfl
  have short : (Bytes.ofText config.passphrase).length < 0x100000000 := by decide
  obtain ⟨s, sealed⟩ := License.exists_seal_specimen short length
    ⟨List.replicate 16 0, List.replicate 12 0, rfl, rfl⟩
  refine ⟨s, ?_⟩
  intro sources
  have unsealed : s.unseal (PublicKey.ofSeed seed) (Bytes.ofText config.passphrase) =
      .ok License.specimen :=
    (License.wellFormed_of_build License.build_specimen).unseal_of_seal_eq_ok length sealed
  have opened : (fresh config Validator.dates).load sources "a" = .ok License.specimen :=
    load_eq_ok_iff.mpr
      ⟨s, rfl, _, rfl, List.cons_ne_nil _ _, _, PublicKey.load_ofSeed seed, unsealed⟩
  refine (outcomes_eq_map_performAfresh config Validator.dates sources _ ?_ ?_).trans ?_
  · simp
  · change Context.Distinguished ["a", "a", "b", "a"]
    decide
  · simp only [List.map_cons, List.map_nil, performAfresh, loadValid, opened]
    rfl

end Manager

end Licensing
