import Licensing.License.BinaryForm
import Licensing.Proofs.Bytes.Numbers
import Licensing.License.TextForm
import Licensing.Proofs.License.Equality
import Licensing.Proofs.License.WellFormed

/-!
# The binary form of licenses is read back

Each part of the binary form is read from exactly the bytes that are written for it. So a license is
read back from its binary form, whatever its texts and however many its features.

## Main definitions

* `License.FitsBinary` — the licenses that have a binary form.

## Main results

* `BinaryForm.nextNumber_run_eq_ok_iff`, `BinaryForm.takeText_run_eq_ok_iff`,
  `BinaryForm.takeFeatures_run_eq_ok_iff` — what numbers, texts and features are read from.
* `License.takeSettings_run_eq_ok_iff` — settings are read from the binary form of the license that
  has them as its values.
* `License.ofBinary_eq_ok_iff` — a license is read from its binary form and from nothing else.
* `License.binary_round_trip` — which licenses have a binary form, and that they are read back.
* `License.binary_canonical` — a license has one binary form, and nothing else is read.
-/

namespace Licensing

namespace BinaryForm

open Decoder

variable {α β : Type}

/-- One decoder after the other succeeds if and only if the second one does on what the first one
leaves. -/
theorem run_bind_eq_ok_iff {d : Decoder α} {f : α → Decoder β} {bytes rest : Bytes} {b : β} :
    (d >>= f).run bytes = .ok (b, rest) ↔
      ∃ a middle, d.run bytes = .ok (a, middle) ∧ (f a).run middle = .ok (b, rest) := by
  simp only [StateT.run_bind, bind_eq_ok_iff, Prod.exists]

theorem run_pure_eq_ok_iff {a b : α} {bytes rest : Bytes} :
    (pure a : Decoder α).run bytes = .ok (b, rest) ↔ a = b ∧ bytes = rest := by
  simp only [StateT.run_pure, pure_eq_ok_iff, Prod.mk.injEq]

theorem run_get_eq_ok_iff {bytes rest found : Bytes} :
    (get : Decoder Bytes).run bytes = .ok (found, rest) ↔ found = bytes ∧ bytes = rest := by
  simp only [StateT.run_get, pure_eq_ok_iff, Prod.mk.injEq, eq_comm (a := found)]

/-- A condition lets pass if and only if it is met. -/
theorem check_run_eq_ok_iff {p : Prop} [Decidable p] {fault : FormatFault} {bytes rest : Bytes}
    {u : Unit} : (check p fault).run bytes = .ok (u, rest) ↔ p ∧ bytes = rest := by
  rw [run_check]
  by_cases holds : p <;> simp [holds]

/-! ### Bytes and numbers -/

theorem need_run_eq_ok_iff {count : Nat} {part : Part} {bytes rest : Bytes} {u : Unit} :
    (need count part).run bytes = .ok (u, rest) ↔ count ≤ bytes.length ∧ bytes = rest := by
  rw [run_need]
  by_cases enough : count ≤ bytes.length <;> simp [enough]

theorem peek_run_eq_ok_iff {count : Nat} {bytes rest found : Bytes} :
    (peek count).run bytes = .ok (found, rest) ↔
      count ≤ bytes.length ∧ found = bytes.take count ∧ bytes = rest := by
  rw [run_peek]
  split_ifs with short
  · exact iff_of_false nofun fun h => absurd h.1 (Nat.not_le_of_lt short)
  · simp [Nat.le_of_not_lt short, eq_comm]

theorem skip_run_eq_ok_iff {count : Nat} {bytes rest : Bytes} {u : Unit} :
    (skip count).run bytes = .ok (u, rest) ↔ count ≤ bytes.length ∧ rest = bytes.drop count := by
  rw [run_skip]
  split_ifs with short
  · exact iff_of_false nofun fun h => absurd h.1 (Nat.not_le_of_lt short)
  · simp [Nat.le_of_not_lt short, eq_comm]

/-- The next bytes are read off, as many as wanted. -/
theorem next_run_eq_ok_iff {count : Nat} {bytes rest taken : Bytes} :
    (next count).run bytes = .ok (taken, rest) ↔
      taken.length = count ∧ bytes = taken ++ rest := by
  rw [run_next]
  split_ifs with short
  · refine iff_of_false nofun ?_
    rintro ⟨rfl, rfl⟩
    simp at short
  · rw [Except.ok.injEq, Prod.mk.injEq]
    constructor
    · rintro ⟨rfl, rfl⟩
      exact ⟨List.length_take_of_le (Nat.le_of_not_lt short), (List.take_append_drop ..).symm⟩
    · rintro ⟨rfl, rfl⟩
      exact ⟨List.take_left, List.drop_left⟩

/-- A number is read from the bytes that are written for it, and fits into them. -/
theorem nextNumber_run_eq_ok_iff {width n : Nat} {bytes rest : Bytes} :
    (nextNumber width).run bytes = .ok (n, rest) ↔
      n < 256 ^ width ∧ bytes = Bytes.bigEndian width n ++ rest := by
  simp only [nextNumber, run_bind_eq_ok_iff, next_run_eq_ok_iff, run_pure_eq_ok_iff]
  constructor
  · rintro ⟨digits, _, ⟨rfl, rfl⟩, rfl, rfl⟩
    exact ⟨Bytes.ofBigEndian_lt digits, by rw [Bytes.bigEndian_ofBigEndian]⟩
  · rintro ⟨fits, rfl⟩
    exact ⟨_, _, ⟨Bytes.length_bigEndian width n, rfl⟩, by
      rw [Bytes.ofBigEndian_bigEndian, Nat.mod_eq_of_lt fits], rfl⟩

/-- A date is read from the bytes that are written for it. -/
theorem nextDate_run_eq_ok_iff {date : Int64} {bytes rest : Bytes} :
    nextDate.run bytes = .ok (date, rest) ↔ bytes = encodeDate date ++ rest := by
  simp only [nextDate, run_bind_eq_ok_iff, nextNumber_run_eq_ok_iff, run_pure_eq_ok_iff]
  constructor
  · rintro ⟨n, _, ⟨fits, rfl⟩, rfl, rfl⟩
    have back : (UInt64.ofNat n).toInt64.toUInt64.toNat = n := by
      rw [UInt64.toUInt64_toInt64, UInt64.toNat_ofNat']
      exact Nat.mod_eq_of_lt fits
    rw [encodeDate, back]
  · rintro rfl
    refine ⟨_, _, ⟨date.toUInt64.toNat_lt, rfl⟩, ?_, rfl⟩
    rw [UInt64.ofNat_toNat, Int64.toInt64_toUInt64]

/-! ### Texts -/

/-- A text has a binary form if and only if its bytes can be counted in four bytes. -/
theorem encodeText_eq_ok_iff {text : String} {written : Bytes} :
    encodeText text = .ok written ↔
      (Bytes.ofText text).length < 0x100000000 ∧
        written = Bytes.bigEndian 4 (Bytes.ofText text).length ++ Bytes.ofText text := by
  simp only [encodeText]
  split_ifs with fits
  · simp [fits, eq_comm]
  · simp [fits]

/-- A text is read from the bytes that are written for it. -/
theorem takeText_run_eq_ok_iff {text : String} {part : Part} {bytes rest : Bytes} :
    (takeText part).run bytes = .ok (text, rest) ↔
      ∃ written, encodeText text = .ok written ∧ bytes = written ++ rest := by
  simp only [takeText, run_bind_eq_ok_iff, need_run_eq_ok_iff, nextNumber_run_eq_ok_iff,
    peek_run_eq_ok_iff, encodeText_eq_ok_iff]
  constructor
  · rintro ⟨_, _, ⟨-, rfl⟩, length, left, ⟨fits, rfl⟩, _, _, ⟨enough, rfl⟩, _, _, ⟨-, rfl, rfl⟩,
      read⟩
    rcases hd : Utf8.decode (left.take length) with fault | decoded
    · rw [hd] at read
      cases read
    · rw [hd] at read
      obtain ⟨_, _, ⟨-, rfl⟩, rfl, rfl⟩ : ∃ u middle, (length ≤ left.length ∧
          middle = left.drop length) ∧ decoded = text ∧ middle = rest := by
        simpa only [run_bind_eq_ok_iff, skip_run_eq_ok_iff, run_pure_eq_ok_iff] using read
      have content := Utf8.eq_ofText_of_decode hd
      have whole : (Bytes.ofText decoded).length = length := by
        rw [← content, List.length_take_of_le enough]
      refine ⟨_, ⟨whole ▸ fits, rfl⟩, ?_⟩
      rw [whole, ← content, List.append_assoc, List.take_append_drop]
  · rintro ⟨_, ⟨fits, rfl⟩, rfl⟩
    refine ⟨(), _, ⟨by simp, rfl⟩, _, _, ⟨fits, List.append_assoc ..⟩, ?_⟩
    refine ⟨(), _, ⟨by simp, rfl⟩, _, _, ⟨by simp, List.take_left.symm, rfl⟩, ?_⟩
    rw [Utf8.decode_ofText]
    simp only [run_bind_eq_ok_iff, skip_run_eq_ok_iff, run_pure_eq_ok_iff]
    exact ⟨(), _, ⟨by simp, List.drop_left.symm⟩, trivial, rfl⟩

/-! ### Features -/

theorem encodeFeature_eq_ok_iff {f : Feature} {written : Bytes} :
    encodeFeature f = .ok written ↔
      ∃ name, encodeText f.name = .ok name ∧ written = name ++ encodeDate f.expiry := by
  simp only [encodeFeature, bind_eq_ok_iff, pure_eq_ok_iff, eq_comm (a := written)]

/-- A feature is read from the bytes that are written for it. -/
theorem takeFeature_run_eq_ok_iff {f : Feature} {bytes rest : Bytes} :
    takeFeature.run bytes = .ok (f, rest) ↔
      ∃ written, encodeFeature f = .ok written ∧ bytes = written ++ rest := by
  simp only [takeFeature, run_bind_eq_ok_iff, takeText_run_eq_ok_iff, need_run_eq_ok_iff,
    nextDate_run_eq_ok_iff, run_pure_eq_ok_iff, encodeFeature_eq_ok_iff]
  constructor
  · rintro ⟨text, _, ⟨name, encoded, rfl⟩, _, _, ⟨-, rfl⟩, expiry, _, rfl, rfl, rfl⟩
    exact ⟨_, ⟨name, encoded, rfl⟩, (List.append_assoc ..).symm⟩
  · rintro ⟨_, ⟨name, encoded, rfl⟩, rfl⟩
    have room : 8 ≤ (encodeDate f.expiry ++ rest).length := by simp [encodeDate]
    exact ⟨_, _, ⟨name, encoded, List.append_assoc ..⟩, (), _, ⟨room, rfl⟩, _, _, rfl, rfl, rfl⟩

/-- As many features as wanted are read from the bytes that are written for them. -/
theorem takeFeatures_run_eq_ok_iff {count : Nat} {features : List Feature} {bytes rest : Bytes} :
    (takeFeatures count).run bytes = .ok (features, rest) ↔
      features.length = count ∧
        ∃ written, encodeFeatures features = .ok written ∧ bytes = written ++ rest := by
  induction count generalizing features bytes rest with
  | zero =>
    rw [takeFeatures, run_pure_eq_ok_iff, List.length_eq_zero_iff]
    constructor
    · rintro ⟨rfl, rfl⟩
      exact ⟨rfl, [], rfl, rfl⟩
    · rintro ⟨rfl, _, ⟨⟩, rfl⟩
      exact ⟨rfl, rfl⟩
  | succ count ih =>
    simp only [takeFeatures, run_bind_eq_ok_iff, takeFeature_run_eq_ok_iff, ih, run_pure_eq_ok_iff]
    constructor
    · rintro ⟨f, _, ⟨first, hf, rfl⟩, others, _, ⟨rfl, written, ho, rfl⟩, rfl, rfl⟩
      refine ⟨rfl, first ++ written, ?_, (List.append_assoc ..).symm⟩
      rw [encodeFeatures, hf, ho]
      rfl
    · rintro ⟨length, written, encoded, rfl⟩
      cases features with
      | nil => cases length
      | cons f others =>
        simp only [encodeFeatures, bind_eq_ok_iff, pure_eq_ok_iff] at encoded
        obtain ⟨first, hf, last, ho, rfl⟩ := encoded
        exact ⟨f, _, ⟨first, hf, List.append_assoc ..⟩, others, _,
          ⟨Nat.succ.inj length, last, ho, rfl⟩, rfl, rfl⟩

/-- Each feature takes the bytes that count its name and those of its expiry at least. -/
theorem leastFeature_mul_length_le {features : List Feature} {written : Bytes}
    (h : encodeFeatures features = .ok written) :
    leastFeature * features.length ≤ written.length := by
  induction features generalizing written with
  | nil => simp
  | cons f others ih =>
    simp only [encodeFeatures, bind_eq_ok_iff, pure_eq_ok_iff, encodeFeature_eq_ok_iff,
      encodeText_eq_ok_iff] at h
    obtain ⟨_, ⟨_, ⟨-, rfl⟩, rfl⟩, last, ho, rfl⟩ := h
    have rest := ih ho
    simp only [List.length_cons, List.length_append, Bytes.length_bigEndian, encodeDate,
      leastFeature] at rest ⊢
    omega

/-- Features have a binary form if and only if the bytes of each name can be counted in four
bytes. -/
theorem exists_encodeFeatures_iff {features : List Feature} :
    (∃ written, encodeFeatures features = .ok written) ↔
      ∀ f ∈ features, (Bytes.ofText f.name).length < 2 ^ 32 := by
  induction features with
  | nil => simp [encodeFeatures]
  | cons f features ih =>
    rw [List.forall_mem_cons, ← ih]
    simp only [encodeFeatures, bind_eq_ok_iff, pure_eq_ok_iff, encodeFeature_eq_ok_iff,
      encodeText_eq_ok_iff]
    constructor
    · rintro ⟨_, _, ⟨_, ⟨fits, rfl⟩, rfl⟩, others, ho, rfl⟩
      exact ⟨fits, others, ho⟩
    · rintro ⟨fits, others, ho⟩
      exact ⟨_, _, ⟨_, ⟨fits, rfl⟩, rfl⟩, others, ho, rfl⟩

/-- A number of features is taken if the rest can hold as many. -/
theorem checkCount_run_eq_ok_iff {count : Nat} {bytes rest : Bytes} {u : Unit} :
    (checkCount count).run bytes = .ok (u, rest) ↔
      leastFeature * count ≤ bytes.length ∧ bytes = rest := by
  have holds (n : Nat) : count ≤ n / leastFeature ↔ leastFeature * count ≤ n := by
    rw [leastFeature]
    omega
  simp only [checkCount, run_bind_eq_ok_iff, run_get_eq_ok_iff, check_run_eq_ok_iff, holds]
  constructor
  · rintro ⟨_, _, ⟨rfl, rfl⟩, enough, rfl⟩
    exact ⟨enough, rfl⟩
  · rintro ⟨enough, rfl⟩
    exact ⟨_, _, ⟨rfl, rfl⟩, enough, rfl⟩

/-! ### The whole form -/

theorem atEnd_run_eq_ok_iff {bytes rest : Bytes} {u : Unit} :
    atEnd.run bytes = .ok (u, rest) ↔ bytes = [] ∧ rest = [] := by
  simp only [atEnd, run_bind_eq_ok_iff, run_get_eq_ok_iff, check_run_eq_ok_iff]
  constructor
  · rintro ⟨_, _, ⟨rfl, rfl⟩, rfl, rfl⟩
    exact ⟨rfl, rfl⟩
  · rintro ⟨rfl, rfl⟩
    exact ⟨_, _, ⟨rfl, rfl⟩, rfl, rfl⟩

/-- The mark and the version are read from themselves. -/
theorem takeHeader_run_eq_ok_iff {bytes rest : Bytes} {u : Unit} :
    takeHeader.run bytes = .ok (u, rest) ↔ bytes = magic ++ [version] ++ rest := by
  simp only [takeHeader, run_bind_eq_ok_iff, need_run_eq_ok_iff, next_run_eq_ok_iff,
    check_run_eq_ok_iff]
  constructor
  · rintro ⟨_, _, ⟨-, rfl⟩, _, _, ⟨-, rfl⟩, _, _, ⟨rfl, rfl⟩, _, _, ⟨-, rfl⟩, rfl, rfl⟩
    exact (List.append_assoc ..).symm
  · rintro rfl
    exact ⟨(), _, ⟨by simp [magic], rfl⟩, _, _, ⟨rfl, List.append_assoc ..⟩, (), _, ⟨rfl, rfl⟩,
      _, _, ⟨rfl, rfl⟩, rfl, rfl⟩

theorem encodeCount_eq_ok_iff {count : Nat} {written : Bytes} :
    encodeCount count = .ok written ↔
      count < 0x100000000 ∧ written = Bytes.bigEndian 4 count := by
  simp only [encodeCount]
  split_ifs with fits
  · simp [fits, eq_comm]
  · simp [fits]

end BinaryForm

namespace License

open BinaryForm

/-- A license has a binary form if and only if all its texts, the number of its features and its
features have one. -/
theorem toBinary_eq_ok_iff {l : License} {bytes : Bytes} :
    l.toBinary = .ok bytes ↔
      ∃ key, encodeText l.productKey = .ok key ∧ ∃ holder, encodeText l.holder = .ok holder ∧
        ∃ issuer, encodeText l.issuer = .ok issuer ∧ ∃ subject, encodeText l.subject = .ok subject ∧
          l.features.length < 0x100000000 ∧ ∃ features, encodeFeatures l.features = .ok features ∧
            magic ++ [version] ++ key ++ holder ++ issuer ++ subject ++ encodeDate l.issueDate ++
              encodeDate l.goodAfterDate ++ encodeDate l.goodBeforeDate ++
              Bytes.bigEndian 4 l.seats.toNat ++ Bytes.bigEndian 4 l.features.length ++ features =
                bytes := by
  simp only [toBinary, bind_eq_ok_iff, pure_eq_ok_iff, encodeCount_eq_ok_iff]
  constructor
  · rintro ⟨key, hk, holder, hh, issuer, hi, subject, hs, _, ⟨fits, rfl⟩, features, hf, eq⟩
    exact ⟨key, hk, holder, hh, issuer, hi, subject, hs, fits, features, hf, eq⟩
  · rintro ⟨key, hk, holder, hh, issuer, hi, subject, hs, fits, features, hf, eq⟩
    exact ⟨key, hk, holder, hh, issuer, hi, subject, hs, _, ⟨fits, rfl⟩, features, hf, eq⟩

/-- Settings are read from a byte string if and only if they are the values of a license whose
binary form it is. -/
theorem takeSettings_run_eq_ok_iff {settings : List Setting} {bytes rest : Bytes} :
    takeSettings.run bytes = .ok (settings, rest) ↔
      rest = [] ∧ ∃ l : License, settings = l.allSettings ∧ l.toBinary = .ok bytes := by
  simp only [takeSettings, takeCheckedHead, takeHead, bind_assoc, pure_bind, run_bind_eq_ok_iff,
    takeHeader_run_eq_ok_iff, takeText_run_eq_ok_iff, need_run_eq_ok_iff, nextDate_run_eq_ok_iff,
    nextNumber_run_eq_ok_iff, checkCount_run_eq_ok_iff, takeFeatures_run_eq_ok_iff,
    atEnd_run_eq_ok_iff, run_pure_eq_ok_iff, toBinary_eq_ok_iff]
  constructor
  · rintro ⟨_, _, rfl, key, _, ⟨_, hk, rfl⟩, holder, _, ⟨_, hh, rfl⟩, issuer, _, ⟨_, hi, rfl⟩,
      subject, _, ⟨_, hs, rfl⟩, _, _, ⟨-, rfl⟩, issueDate, _, rfl, goodAfterDate, _, rfl,
      goodBeforeDate, _, rfl, seats, _, ⟨seatsFit, rfl⟩, count, _, ⟨countFits, rfl⟩, _, _,
      ⟨-, rfl⟩, features, _, ⟨rfl, written, hf, rfl⟩, _, _, ⟨rfl, rfl⟩, rfl, rfl⟩
    refine ⟨rfl, ⟨key, holder, issuer, subject, issueDate, goodAfterDate, goodBeforeDate,
      UInt32.ofNat seats, features⟩, rfl, _, hk, _, hh, _, hi, _, hs, countFits, _, hf, ?_⟩
    have back : (UInt32.ofNat seats).toNat = seats := by
      rw [UInt32.toNat_ofNat']
      exact Nat.mod_eq_of_lt seatsFit
    simp only [back, List.append_assoc, List.append_nil]
  · rintro ⟨rfl, l, rfl, key, hk, holder, hh, issuer, hi, subject, hs, fits, features, hf, rfl⟩
    have room : leastFeature * l.features.length ≤ features.length :=
      leastFeature_mul_length_le hf
    have seats : UInt32.ofNat l.seats.toNat = l.seats := UInt32.ofNat_toNat
    -- The parts in order, each with what it reads and what it leaves.
    simp only [List.append_assoc]
    refine ⟨(), _, (List.append_assoc ..).symm, ?_⟩
    refine ⟨l.productKey, _, ⟨_, hk, rfl⟩, l.holder, _, ⟨_, hh, rfl⟩, ?_⟩
    refine ⟨l.issuer, _, ⟨_, hi, rfl⟩, l.subject, _, ⟨_, hs, rfl⟩, (), _, ⟨?_, rfl⟩, ?_⟩
    · simp [encodeDate]
      omega
    refine ⟨l.issueDate, _, rfl, l.goodAfterDate, _, rfl, l.goodBeforeDate, _, rfl, ?_⟩
    refine ⟨l.seats.toNat, _, ⟨l.seats.toNat_lt, rfl⟩, l.features.length, _, ⟨fits, rfl⟩, ?_⟩
    refine ⟨(), _, ⟨room, rfl⟩, l.features, [], ⟨rfl, features, hf, (List.append_nil _).symm⟩, ?_⟩
    refine ⟨(), [], ⟨rfl, rfl⟩, ?_, rfl⟩
    rw [seats]
    rfl

/-- A license whose texts and features can be counted in four bytes. -/
structure FitsBinary (l : License) : Prop where
  productKey : (Bytes.ofText l.productKey).length < 2 ^ 32
  holder : (Bytes.ofText l.holder).length < 2 ^ 32
  issuer : (Bytes.ofText l.issuer).length < 2 ^ 32
  subject : (Bytes.ofText l.subject).length < 2 ^ 32
  names : ∀ f ∈ l.features, (Bytes.ofText f.name).length < 2 ^ 32
  count : l.features.length < 2 ^ 32

/-- The licenses that have a binary form. -/
theorem exists_toBinary_iff {l : License} : (∃ bytes, l.toBinary = .ok bytes) ↔ l.FitsBinary := by
  simp only [toBinary_eq_ok_iff]
  constructor
  · rintro ⟨_, _, hk, _, hh, _, hi, _, hs, count, _, hf, -⟩
    exact ⟨(encodeText_eq_ok_iff.mp hk).1, (encodeText_eq_ok_iff.mp hh).1,
      (encodeText_eq_ok_iff.mp hi).1, (encodeText_eq_ok_iff.mp hs).1,
      exists_encodeFeatures_iff.mp ⟨_, hf⟩, count⟩
  · rintro ⟨hk, hh, hi, hs, names, count⟩
    obtain ⟨features, hf⟩ := exists_encodeFeatures_iff.mpr names
    exact ⟨_, _, encodeText_eq_ok_iff.mpr ⟨hk, rfl⟩, _, encodeText_eq_ok_iff.mpr ⟨hh, rfl⟩, _,
      encodeText_eq_ok_iff.mpr ⟨hi, rfl⟩, _, encodeText_eq_ok_iff.mpr ⟨hs, rfl⟩, count, features,
      hf, rfl⟩

/-- A byte string is read as a license if and only if it is its binary form and the license is well
formed. -/
theorem ofBinary_eq_ok_iff {bytes : Bytes} {l : License} :
    ofBinary bytes = .ok l ↔ l.toBinary = .ok bytes ∧ l.WellFormed := by
  simp only [ofBinary, Halt.settle_eq_ok_iff, readBinary, bind_eq_ok_iff, Prod.exists,
    takeSettings_run_eq_ok_iff, mapError_eq_ok_iff, ofSettings_eq_ok_iff]
  constructor
  · rintro ⟨_, _, ⟨-, _, rfl, written⟩, made⟩
    obtain ⟨wellFormed, rfl⟩ := build_allSettings_eq_ok_iff.mp made
    exact ⟨written, wellFormed⟩
  · rintro ⟨written, wellFormed⟩
    exact ⟨_, _, ⟨rfl, l, rfl, written⟩, build_allSettings_eq_ok_iff.mpr ⟨wellFormed, rfl⟩⟩

/-- **Binary round trip.** A license that is made from settings has a binary form if and only if its
texts and its features can be counted in four bytes. From its binary form it is read back the same,
down to the order of its features. -/
theorem binary_round_trip {settings : List Setting} {l : License} (made : build settings = .ok l) :
    ((∃ bytes, l.toBinary = .ok bytes) ↔ l.FitsBinary) ∧
      ∀ bytes, l.toBinary = .ok bytes →
        ∃ found, ofBinary bytes = .ok found ∧ found = l ∧ found.toText = l.toText ∧
          found.equals l = true := by
  refine ⟨exists_toBinary_iff, fun bytes written => ?_⟩
  have found : ofBinary bytes = .ok l :=
    ofBinary_eq_ok_iff.mpr ⟨written, wellFormed_of_build made⟩
  exact ⟨l, found, rfl, rfl, equals_self l⟩

/-- The round trip of a license with a lasting feature and one that ends. -/
theorem binary_round_trip_specimen :
    build specimen.allSettings = .ok specimen ∧
      ∃ bytes found, specimen.toBinary = .ok bytes ∧ ofBinary bytes = .ok found ∧
        found.features = [.lasting "export", ⟨"print", 1900000000000⟩] := by
  obtain ⟨present, back⟩ := binary_round_trip build_specimen
  obtain ⟨bytes, written⟩ := present.mpr (by constructor <;> decide)
  obtain ⟨found, read, rfl, -, -⟩ := back bytes written
  exact ⟨build_specimen, bytes, specimen, written, read, rfl⟩

/-- **The binary form is canonical.** A byte string that is read as a license is the binary form of
the license, byte for byte. So no other byte string is read as the same license, and the byte
strings that are read at all are the binary forms of the licenses that can be made from settings. -/
theorem binary_canonical (bytes : Bytes) :
    (∀ l, ofBinary bytes = .ok l → l.toBinary = .ok bytes) ∧
      (∀ other l, ofBinary bytes = .ok l → ofBinary other = .ok l → other = bytes) ∧
      ((∃ l, ofBinary bytes = .ok l) ↔
        ∃ settings l, build settings = .ok l ∧ l.toBinary = .ok bytes) := by
  refine ⟨fun l read => (ofBinary_eq_ok_iff.mp read).1, fun other l read again => ?_, ?_⟩
  · have written := (ofBinary_eq_ok_iff.mp read).1
    have rewritten := (ofBinary_eq_ok_iff.mp again).1
    exact Except.ok.inj (rewritten.symm.trans written)
  · constructor
    · rintro ⟨l, read⟩
      obtain ⟨written, wellFormed⟩ := ofBinary_eq_ok_iff.mp read
      obtain ⟨settings, made⟩ := exists_build_iff.mpr wellFormed
      exact ⟨settings, l, made, written⟩
    · rintro ⟨settings, l, made, written⟩
      exact ⟨l, ofBinary_eq_ok_iff.mpr ⟨written, wellFormed_of_build made⟩⟩

/-- The license with a lasting feature and one that ends is read from one byte string only. -/
theorem binary_canonical_specimen :
    ∃ bytes, ofBinary bytes = .ok specimen ∧
      ∀ other, ofBinary other = .ok specimen → other = bytes := by
  obtain ⟨bytes, written⟩ : ∃ bytes, specimen.toBinary = .ok bytes := ⟨_, rfl⟩
  have read : ofBinary bytes = .ok specimen :=
    ofBinary_eq_ok_iff.mpr ⟨written, wellFormed_of_build build_specimen⟩
  exact ⟨bytes, read, fun other again => (binary_canonical bytes).2.1 other specimen read again⟩

end License

end Licensing
