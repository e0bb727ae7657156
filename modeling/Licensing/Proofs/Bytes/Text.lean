import Licensing.Text.Utf8
import Mathlib.Data.List.Basic

/-!
# The bytes of texts

## Main results

* `Bytes.ofText_injective` — different texts have different bytes.
* `Bytes.max_notMem_ofText` — no text has the byte 255, which can therefore end one.
* `Bytes.ofText_of_ascii` — an ASCII text has one byte for each character.
* `Bytes.utf8ByteSize_of_ascii` — so many bytes it has.
-/

namespace Licensing.Bytes

/-- Different texts have different bytes. -/
theorem ofText_injective : Function.Injective ofText := by
  intro text other eq
  have read := Utf8.decode_ofText other
  rw [← eq, Utf8.decode_ofText] at read
  exact Except.ok.inj read

/-- The bytes of a text are those of its characters, one after the other. -/
theorem ofText_eq_flatMap (text : String) :
    ofText text = text.toList.flatMap String.utf8EncodeChar := by
  have bytes (chars : List Char) :
      ofText (String.ofList chars) = chars.flatMap String.utf8EncodeChar := by
    simp [ofText, List.utf8Encode]
  rw [← bytes, String.ofList_toList]

/-- No character has the byte 255: the first bytes end at 247, those after them at 191. -/
theorem max_notMem_utf8EncodeChar (c : Char) : (0xff : UInt8) ∉ String.utf8EncodeChar c := by
  have apart {n : Nat} (low : n < 255) : (0xff : UInt8) ≠ UInt8.ofNat n := by
    intro eq
    have size : (255 : Nat) = n % 256 := by simpa using congrArg UInt8.toNat eq
    omega
  rw [String.utf8EncodeChar]
  split_ifs <;> simp only [List.mem_cons, List.not_mem_nil, or_false, not_or]
  · exact apart (by omega)
  · exact ⟨apart (by omega), apart (by omega)⟩
  · exact ⟨apart (by omega), apart (by omega), apart (by omega)⟩
  · exact ⟨apart (by omega), apart (by omega), apart (by omega), apart (by omega)⟩

/-- No text has the byte 255. -/
theorem max_notMem_ofText (text : String) : (0xff : UInt8) ∉ ofText text := by
  rw [ofText_eq_flatMap, List.mem_flatMap]
  rintro ⟨c, -, mem⟩
  exact max_notMem_utf8EncodeChar c mem

/-- An ASCII text has one byte for each character. -/
theorem ofText_of_ascii {text : String} (h : ∀ c ∈ text.toList, c.toNat < 128) :
    ofText text = text.toList.map fun c => UInt8.ofNat c.toNat := by
  have one {c : Char} (mem : c ∈ text.toList) :
      String.utf8EncodeChar c = [UInt8.ofNat c.toNat] := by
    have short : c.val.toNat < 128 := h c mem
    rw [String.utf8EncodeChar, if_pos (by omega), Char.toNat_val]
  rw [ofText_eq_flatMap, List.flatMap_congr fun c => one, List.map_eq_flatMap]

/-- An ASCII text has as many bytes as characters. -/
theorem utf8ByteSize_of_ascii {text : String} (h : ∀ c ∈ text.toList, c.toNat < 128) :
    text.utf8ByteSize = text.toList.length := by
  have bytes : (ofText text).length = text.utf8ByteSize := by
    simp [ofText]
  rw [← bytes, ofText_of_ascii h, List.length_map]

end Licensing.Bytes
