import Licensing.Proofs.Bytes.Numbers
import Licensing.Proofs.Bytes.Text
import Licensing.Proofs.License.Equality
import Licensing.Proofs.License.WellFormed
import Licensing.Proofs.Lists

/-!
# Hashes of licenses

The bytes that are hashed can be cut in one way only: each text ends at the first byte 255, which no
text has, and each number has a width of its own. So they tell every value of a license but its
features, and of these the number. Equal licenses have as many features and therefore one hash.

## Main results

* `License.hashText_append_inj`, `License.littleEndian_append_inj` — how the bytes are cut.
* `License.hashInput_eq_iff_agree` — when two licenses have the same bytes to hash, and what the
  hash does not see.
-/

namespace Licensing.License

theorem featureCount_eq (l : License) : l.featureCount = l.features.length := rfl

/-- A text and the byte after it are cut off a byte string in one way only. -/
theorem hashText_append_inj {text other : String} {rest last : Bytes} :
    hashText text ++ rest = hashText other ++ last ↔ text = other ∧ rest = last := by
  rw [hashText, hashText, List.append_assoc, List.append_assoc, List.singleton_append,
    List.singleton_append,
    append_terminator_inj (Bytes.max_notMem_ofText text) (Bytes.max_notMem_ofText other),
    Bytes.ofText_injective.eq_iff]

/-- A number of a given width is cut off a byte string in one way only. -/
theorem littleEndian_append_inj {width m n : Nat} {rest last : Bytes} (hm : m < 256 ^ width)
    (hn : n < 256 ^ width) :
    Bytes.littleEndian width m ++ rest = Bytes.littleEndian width n ++ last ↔
      m = n ∧ rest = last := by
  have length : (Bytes.littleEndian width m).length = (Bytes.littleEndian width n).length := by
    simp
  rw [List.append_eq_append_iff_of_size_eq_left length, Bytes.littleEndian_inj hm hn]

/-- A date is cut off a byte string in one way only. -/
theorem hashNumber_append_inj {date other : Int64} {rest last : Bytes} :
    hashNumber date.toUInt64 ++ rest = hashNumber other.toUInt64 ++ last ↔
      date = other ∧ rest = last := by
  have fits (n : UInt64) : n.toNat < 256 ^ 8 := n.toNat_lt
  rw [hashNumber, hashNumber, littleEndian_append_inj (fits _) (fits _), Bytes.toNat_toUInt64_inj]

/-- Licenses that agree on all values but the features, and have as many features, have the same
bytes to hash. -/
theorem ScalarsAgree.hashInput_eq {a b : License} (h : a.ScalarsAgree b)
    (count : a.features.length = b.features.length) : a.hashInput = b.hashInput := by
  rw [hashInput, hashInput, h.productKey, h.holder, h.issuer, h.subject, h.issueDate,
    h.goodAfterDate, h.goodBeforeDate, h.seats, featureCount_eq, featureCount_eq, count]

/-- **Hashes of licenses.** Two licenses, each with a number of features that 64 bits can hold, have
the same bytes to hash if and only if all their values agree but the features, and they have as many
features. So equal licenses have the same bytes to hash and the same hash, and no license changes
either of them with its features, as long as their number stays. -/
theorem hashInput_eq_iff_agree :
    (∀ {a b : License}, a.features.length < 2 ^ 64 → b.features.length < 2 ^ 64 →
      (a.hashInput = b.hashInput ↔
        a.ScalarsAgree b ∧ a.features.length = b.features.length)) ∧
    (∀ {a b : License}, a.equals b = true →
      a.hashInput = b.hashInput ∧ a.hashCode = b.hashCode) ∧
    ∀ (l : License) {features : List Feature}, features.length = l.features.length →
      ({ l with features } : License).hashInput = l.hashInput ∧
        ({ l with features } : License).hashCode = l.hashCode := by
  have hashed {a b : License} (same : a.hashInput = b.hashInput) : a.hashCode = b.hashCode :=
    congrArg SipHash.digest same
  refine ⟨fun {a b} ha hb => ⟨fun eq => ?_, fun ⟨scalars, count⟩ => scalars.hashInput_eq count⟩,
    fun equal => ?_, fun l features count => ?_⟩
  · have seats (l : License) : l.seats.toNat < 256 ^ 4 := l.seats.toNat_lt
    have ha : a.features.length < 256 ^ 8 := ha
    have hb : b.features.length < 256 ^ 8 := hb
    rw [← List.append_nil a.hashInput, ← List.append_nil b.hashInput] at eq
    simp only [hashInput, List.append_assoc, hashText_append_inj, hashNumber_append_inj,
      littleEndian_append_inj (seats a) (seats b), littleEndian_append_inj ha hb,
      featureCount_eq] at eq
    obtain ⟨key, holder, issuer, subject, issue, after, before, seats, count, -⟩ := eq
    exact ⟨⟨key, holder, issuer, subject, issue, after, before, UInt32.toNat_inj.mp seats⟩, count⟩
  · obtain ⟨scalars, count, -⟩ := equals_iff.mp equal
    have same := scalars.hashInput_eq count
    exact ⟨same, hashed same⟩
  · have same : ({ l with features } : License).hashInput = l.hashInput :=
      ScalarsAgree.hashInput_eq ⟨rfl, rfl, rfl, rfl, rfl, rfl, rfl, rfl⟩ count
    exact ⟨same, hashed same⟩

/-- A license hashes other bytes once a letter moves from the name of its holder to its key, and the
same bytes with two other features. -/
theorem hashInput_eq_iff_agree_specimen :
    let moved : License := { specimen with productKey := "K-1A", holder := "da" }
    let renamed : License := { specimen with features := [⟨"print", 7⟩, .lasting "scan"] }
    specimen.features.length < 2 ^ 64 ∧ moved.features.length < 2 ^ 64 ∧
      specimen.hashInput ≠ moved.hashInput ∧ specimen.hashCode = renamed.hashCode := by
  intro moved renamed
  have fits : specimen.features.length < 2 ^ 64 := by decide
  have fits' : moved.features.length < 2 ^ 64 := by decide
  refine ⟨fits, fits', fun eq => ?_, ?_⟩
  · have agree := ((hashInput_eq_iff_agree.1 fits fits').mp eq).1
    exact absurd agree.productKey (by decide)
  · exact (hashInput_eq_iff_agree.2.2 specimen rfl).2.symm

end Licensing.License
