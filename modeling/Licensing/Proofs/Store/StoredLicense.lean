import Licensing.Proofs.Bytes.Base64
import Licensing.Proofs.Json
import Licensing.Proofs.Time.Clock
import Licensing.Store.StoredLicense

/-!
# Stored licenses are read back

What is stored of a signed license is lossless: the license comes back out of it, and it comes back
out of its document, but for a time in a leap second within a minute, which a document cannot tell
from the second after. It is canonical as well: there is one way to store a license at a time, and
what was not stored in this way is refused.

## Main results

* `StoredLicense.toSigned_ofSigned` — a signed license comes back out of what is stored of it.
* `StoredLicense.ofDocument_toDocument` — what is stored comes back out of its document.
* `StoredLicense.toSigned_eq_ok_iff` — which texts a signed license comes out of.
* `StoredLicense.exists_contentBase64_iff`, `StoredLicense.exists_signatureBase64_iff` — when each
  of the two texts is refused.
* `StoredLicense.ofDocument_toDocument_of_ofDocument` — what is read of any document comes back out
  of its own.
* `StoredLicense.lossless_and_canonical` — all licenses and all stored licenses at once.
* `StoredLicense.not_always_lossless` — a time that does not come back.
-/

namespace Licensing.StoredLicense

/-- A signed license comes back out of what is stored of it, whatever bytes it consists of. -/
theorem toSigned_ofSigned (s : SignedLicense) (now : Instant) :
    (ofSigned s now).toSigned = .ok s := by
  rw [toSigned, ofSigned, Base64.decode_encode, Base64.decode_encode]
  rfl

/-- The members of a document, in order. -/
def members (s : StoredLicense) : List (String × String) :=
  [("license_content", s.content), ("signature", s.signature),
    ("stored_at", s.storedAt.toRfc3339)]

/-- What is stored, its time as it is written. -/
def asWritten (s : StoredLicense) : StoredLicense :=
  { s with storedAt := s.storedAt.asWritten }

/-- Among the members of a document, each name stands once. -/
theorem ofValue?_members {s : StoredLicense} (h : s.storedAt.InRange) :
    ofValue? (.object (s.members.map Json.Value.ofTextMember)) = some s.asWritten := by
  simp [ofValue?, members, Json.Value.ofTextMember, Json.member?, ofParts?, Json.Value.text?,
    Instant.ofRelaxed?_toRfc3339 h, asWritten]

/-- What is stored comes back out of its document, its time as it is written. -/
theorem ofDocument_toDocument {s : StoredLicense} (h : s.storedAt.InRange) :
    ofDocument s.toDocument = .ok s.asWritten := by
  have document : s.toDocument = Json.object (s.members.map Json.textMember) := rfl
  have present : s.members ≠ [] := List.cons_ne_nil _ _
  rw [ofDocument, document, Json.Value.ofDocument?_object present, Option.bind_some,
    ofValue?_members h]

/-! ### Nothing else is read -/

variable {stored : StoredLicense} {s : SignedLicense}

/-- A signed license comes out of its own two texts and of no others. -/
theorem toSigned_eq_ok_iff :
    stored.toSigned = .ok s ↔
      stored.content = Base64.encode s.content ∧ stored.signature = Base64.encode s.signature := by
  simp only [toSigned, bind_eq_ok_iff, mapError_eq_ok_iff, Base64.decode_eq_ok_iff, pure_eq_ok_iff]
  constructor
  · rintro ⟨content, hc, signature, hs, rfl⟩
    exact ⟨hc, hs⟩
  · rintro ⟨hc, hs⟩
    exact ⟨_, hc, _, hs, rfl⟩

/-- What does not come out is refused for the first of its two texts that is no Base64 text. -/
theorem toSigned_eq_error_iff {fault : FormatFault} :
    stored.toSigned = .error fault ↔
      (∃ e, Base64.decode stored.content = .error e ∧ .contentBase64 e = fault) ∨
        (∃ bytes, Base64.decode stored.content = .ok bytes) ∧
          ∃ e, Base64.decode stored.signature = .error e ∧ .signatureBase64 e = fault := by
  simp only [toSigned, bind_eq_error_iff, mapError_eq_error_iff, mapError_eq_ok_iff,
    pure_eq_ok, reduceCtorEq, and_false, exists_false, or_false, exists_and_right]

/-- The content is refused if and only if its text is that of no byte string. -/
theorem exists_contentBase64_iff :
    (∃ fault, stored.toSigned = .error (.contentBase64 fault)) ↔
      ∀ bytes, stored.content ≠ Base64.encode bytes := by
  simp only [toSigned_eq_error_iff, FormatFault.contentBase64.injEq, exists_eq_right, reduceCtorEq,
    and_false, exists_false, or_false, Base64.exists_decode_eq_error_iff]

/-- The signature is refused if and only if its text is that of no byte string, and that of the
content is not. -/
theorem exists_signatureBase64_iff :
    (∃ fault, stored.toSigned = .error (.signatureBase64 fault)) ↔
      (∃ bytes, stored.content = Base64.encode bytes) ∧
        ∀ bytes, stored.signature ≠ Base64.encode bytes := by
  simp only [toSigned_eq_error_iff, FormatFault.signatureBase64.injEq, exists_eq_right,
    reduceCtorEq, and_false, exists_false, false_or, exists_and_left,
    Base64.exists_decode_eq_error_iff, Base64.decode_eq_ok_iff]

/-! ### What is read of any document -/

theorem isValid_of_ofParts? {content signature storedAt : Json.Value}
    (h : ofParts? content signature storedAt = some stored) : stored.storedAt.IsValid := by
  simp only [ofParts?, Option.bind_eq_bind, Option.bind_eq_some_iff] at h
  obtain ⟨c, -, s, -, text, -, t, read, h⟩ := h
  cases h
  exact Instant.isValid_of_ofRelaxed? read

/-- The time in a document is valid. -/
theorem isValid_of_ofDocument {document : String} (h : ofDocument document = .ok stored) :
    stored.storedAt.IsValid := by
  unfold ofDocument at h
  split at h
  · next found =>
    cases h
    obtain ⟨value, -, found⟩ := Option.bind_eq_some_iff.mp found
    unfold ofValue? at found
    split at found
    · exact isValid_of_ofParts? found
    · split_ifs at found
      simp only [Option.bind_eq_bind, Option.bind_eq_some_iff] at found
      obtain ⟨c, -, s, -, t, -, found⟩ := found
      exact isValid_of_ofParts? found
    · cases found
  · cases h

/-- What is read of any document comes back out of its own document. -/
theorem ofDocument_toDocument_of_ofDocument {document : String}
    (h : ofDocument document = .ok stored) : ofDocument stored.toDocument = .ok stored := by
  have valid := isValid_of_ofDocument h
  rw [ofDocument_toDocument valid.inRange, asWritten, valid.inRange.asWritten_eq_iff.mpr valid]

/-! ### One way to store a license -/

/-- A stored license that a signed license comes out of is what is stored of it. -/
theorem ofSigned_of_toSigned (h : stored.toSigned = .ok s) :
    ofSigned s stored.storedAt = stored := by
  obtain ⟨content, signature⟩ := toSigned_eq_ok_iff.mp h
  rw [ofSigned, ← content, ← signature]

/-- A stored license that is not stored of any signed license is refused for one of its texts. -/
theorem refused_of_ne (other : ∀ s, ofSigned s stored.storedAt ≠ stored) :
    ∃ e, stored.toSigned = .error (.contentBase64 e) ∨
      stored.toSigned = .error (.signatureBase64 e) := by
  have fails : ∀ s, stored.toSigned ≠ .ok s := fun s h => other s (ofSigned_of_toSigned h)
  obtain ⟨fault, h⟩ := exists_eq_error_iff.mpr fails
  obtain ⟨e, -, rfl⟩ | ⟨-, e, -, rfl⟩ := toSigned_eq_error_iff.mp h
  · exact ⟨e, .inl h⟩
  · exact ⟨e, .inr h⟩

/-- **Storing is lossless and canonical.** Clocks show the instants in range, and valid ones only as
long as they are given no others. What is stored of a signed license at any of these times comes
back out of its document, with the time as it is written, and the license out of it. The time is
written to the same millisecond; it is the time of the clock if and only if this is valid. A license
comes only out of what is stored of it, so that no two spellings of its two halves are accepted.
Whatever else is stored is refused for its format, for one of the two texts. -/
theorem lossless_and_canonical :
    (∀ now : Instant, (now.OnClock Instant.InRange ↔ now.InRange) ∧
      (now.OnClock Instant.IsValid → now.IsValid)) ∧
      (∀ (s : SignedLicense) (now : Instant), now.InRange →
        ofDocument (ofSigned s now).toDocument = .ok (ofSigned s now.asWritten) ∧
          (ofSigned s now.asWritten).toSigned = .ok s ∧
          now.asWritten.toMillis = now.toMillis ∧
          (ofSigned s now.asWritten = ofSigned s now ↔ now.IsValid)) ∧
      (∀ (stored : StoredLicense) (s : SignedLicense), stored.toSigned = .ok s →
        ofSigned s stored.storedAt = stored) ∧
      (∀ (stored other : StoredLicense) (s : SignedLicense),
        stored.toSigned = .ok s → other.toSigned = .ok s →
          stored.content = other.content ∧ stored.signature = other.signature) ∧
      ∀ stored : StoredLicense, (∀ s, ofSigned s stored.storedAt ≠ stored) →
        ∃ e, stored.toSigned.mapError Error.format = .error (.format (.contentBase64 e)) ∨
          stored.toSigned.mapError Error.format = .error (.format (.signatureBase64 e)) := by
  refine ⟨fun now => ⟨Instant.onClock_inRange_iff, Instant.OnClock.isValid⟩, fun s now range =>
    ⟨ofDocument_toDocument range, toSigned_ofSigned s _, now.toMillis_asWritten, ?_⟩,
    fun stored s => ofSigned_of_toSigned, fun stored other s h h' => ?_,
    fun stored different => ?_⟩
  · simp only [ofSigned, mk.injEq, true_and]
    exact range.asWritten_eq_iff
  · obtain ⟨content, signature⟩ := toSigned_eq_ok_iff.mp h
    obtain ⟨content', signature'⟩ := toSigned_eq_ok_iff.mp h'
    exact ⟨content.trans content'.symm, signature.trans signature'.symm⟩
  · obtain ⟨e, h | h⟩ := refused_of_ne different
    · exact ⟨e, .inl (by rw [h, mapError_error])⟩
    · exact ⟨e, .inr (by rw [h, mapError_error])⟩

/-- A license without content is stored in a leap second at the end of a minute, and another one in
one within a minute; and a text whose unused bits are set is not accepted. -/
theorem lossless_and_canonical_specimen :
    (Instant.ofRfc3339? "1970-01-01T00:00:60.5Z" = some ⟨59, 1500000000⟩ ∧
        Instant.IsValid ⟨59, 1500000000⟩ ∧
        ofDocument (ofSigned ⟨[], [1, 2]⟩ ⟨59, 1500000000⟩).toDocument =
          .ok (ofSigned ⟨[], [1, 2]⟩ ⟨59, 1500000000⟩)) ∧
      (Instant.InRange ⟨86164, 1333333333⟩ ∧
        ofDocument (ofSigned ⟨[7], []⟩ ⟨86164, 1333333333⟩).toDocument =
          .ok (ofSigned ⟨[7], []⟩ ⟨86165, 333333333⟩)) ∧
      (toSigned ⟨"", "AQI=", ⟨59, 1500000000⟩⟩ = .ok ⟨[], [1, 2]⟩ ∧
        ofSigned ⟨[], [1, 2]⟩ ⟨59, 1500000000⟩ = ⟨"", "AQI=", ⟨59, 1500000000⟩⟩) ∧
      ∃ e, (toSigned ⟨"", "AQJ=", ⟨0, 0⟩⟩).mapError Error.format =
          .error (.format (.contentBase64 e)) ∨
        (toSigned ⟨"", "AQJ=", ⟨0, 0⟩⟩).mapError Error.format =
          .error (.format (.signatureBase64 e)) := by
  obtain ⟨onClock, lossless, canonical, -, refused⟩ := lossless_and_canonical
  have read : Instant.ofRfc3339? "1970-01-01T00:00:60.5Z" = some ⟨59, 1500000000⟩ := by decide
  have valid : Instant.IsValid ⟨59, 1500000000⟩ := (onClock _).2 (.read read)
  have given : Instant.InRange ⟨86164, 1333333333⟩ :=
    (onClock _).1.mp (.given ⟨by decide, by decide⟩)
  have out : toSigned ⟨"", "AQI=", ⟨59, 1500000000⟩⟩ = .ok ⟨[], [1, 2]⟩ := by decide
  refine ⟨⟨read, valid, (lossless _ _ valid.inRange).1⟩, ⟨given, (lossless _ _ given).1⟩,
    ⟨out, canonical _ _ out⟩, refused _ fun s h => ?_⟩
  have bits : Base64.decode "AQJ=" = .error (.lastSymbol 74 2) := by decide
  have accepted := Base64.decode_eq_ok_iff.mpr (congrArg signature h).symm
  exact absurd (bits.symm.trans accepted) nofun

/-- Not every time comes back: a clock may be given one a third of a second into a leap second that
follows 23:56:04, and the document names 23:56:05. -/
theorem not_always_lossless :
    ¬ ∀ (s : SignedLicense) (now : Instant), now.OnClock Instant.InRange →
      ofDocument (ofSigned s now).toDocument = .ok (ofSigned s now) := by
  intro lossless
  have given : Instant.InRange ⟨86164, 1333333333⟩ := ⟨by decide, by decide⟩
  have written : (ofSigned ⟨[], []⟩ ⟨86164, 1333333333⟩).asWritten =
      ofSigned ⟨[], []⟩ ⟨86165, 333333333⟩ := rfl
  have same := lossless ⟨[], []⟩ _ (.given given)
  rw [ofDocument_toDocument given, written] at same
  have time := congrArg storedAt (Except.ok.inj same)
  exact absurd time (by decide)

end Licensing.StoredLicense
