import Licensing.Key.Der
import Mathlib.Tactic.Common

/-!
# Short elements are read back

## Main results

* `Der.element?_encode`, `Der.expect?_encode`, `Der.only?_encode` — an element whose content has
  less than 128 bytes is read back.
-/

namespace Licensing.Der

theorem encodeLength_of_lt {n : Nat} (short : n < 128) : encodeLength n = [UInt8.ofNat n] :=
  if_pos short

/-- A short element has two bytes before its content. -/
theorem length_encode {tag : UInt8} {content : Bytes} (short : content.length < 128) :
    (encode tag content).length = content.length + 2 := by
  simp only [encode, encodeLength_of_lt short, List.cons_append, List.nil_append, List.length_cons]

theorem length?_encodeLength {n : Nat} (short : n < 128) (rest : Bytes) :
    length? (encodeLength n ++ rest) = some (n, rest) := by
  have value : (UInt8.ofNat n).toNat = n := by
    rw [UInt8.toNat_ofNat']
    omega
  have small : UInt8.ofNat n < 128 := by
    rw [UInt8.lt_iff_toNat_lt, value]
    exact short
  rw [encodeLength_of_lt short, List.singleton_append, length?, if_pos small, value]

variable (tag : UInt8) {content : Bytes}

/-- A short element is read back, whatever follows it. -/
theorem element?_encode (valid : isTag tag = true) (short : content.length < 128) (rest : Bytes) :
    element? (encode tag content ++ rest) = some (⟨tag, content⟩, rest) := by
  rw [encode, List.cons_append, List.cons_append, List.append_assoc, element?,
    length?_encodeLength short, Option.bind_eq_bind, Option.bind_some]
  simp [valid]

theorem expect?_encode (valid : isTag tag = true) (short : content.length < 128) (rest : Bytes) :
    expect? tag (encode tag content ++ rest) = some (content, rest) := by
  simp [expect?, element?_encode tag valid short]

theorem only?_encode (valid : isTag tag = true) (short : content.length < 128) :
    only? tag (encode tag content) = some content := by
  have expected := expect?_encode tag valid short []
  rw [List.append_nil] at expected
  simp [only?, expected]

end Licensing.Der
