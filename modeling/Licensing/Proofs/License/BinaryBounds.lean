import Licensing.Proofs.License.BinaryForm

/-!
# The binary form is read within its bounds

Whatever bytes are read as a license, no read takes more than is left, and room is reserved for no
more features than the bytes could hold. So reading ends with a license or with a fault of the form.

## Main definitions

* `BinaryForm.room?` — for how many features room is reserved.

## Main results

* `BinaryForm.leastFeature_mul_room_le` — the bytes could hold as many features.
* `License.room?_of_readBinary`, `License.readBinary_of_room?_eq_none` — a license is read only past
  the place where room is reserved, and room for exactly its features.
* `License.readBinary_in_bounds` — reading never overruns, and what it ends with.
-/

namespace Licensing

namespace BinaryForm

open Decoder

/-- For how many features room is reserved while a byte string is read, if reading comes so far. -/
def room? (bytes : Bytes) : Option Nat :=
  match takeCheckedHead.run bytes with
  | .ok (head, _) => some head.count
  | .error _ => none

/-- When what stands before the features is read, the rest can hold as many as are announced. -/
theorem leastFeature_mul_count_le {head : Head} {bytes rest : Bytes}
    (read : takeCheckedHead.run bytes = .ok (head, rest)) :
    leastFeature * head.count ≤ rest.length := by
  simp only [takeCheckedHead, run_bind_eq_ok_iff, checkCount_run_eq_ok_iff, run_pure_eq_ok_iff]
    at read
  obtain ⟨_, _, -, _, _, ⟨holds, rfl⟩, rfl, rfl⟩ := read
  exact holds

/-- Room is reserved for no more features than the whole byte string could hold. -/
theorem leastFeature_mul_room_le {bytes : Bytes} {room : Nat} (reserved : room? bytes = some room) :
    leastFeature * room ≤ bytes.length := by
  unfold room? at reserved
  rcases read : takeCheckedHead.run bytes with halt | ⟨head, rest⟩
  · rw [read] at reserved
    cases reserved
  · rw [read] at reserved
    cases reserved
    exact (leastFeature_mul_count_le read).trans (guarded_takeCheckedHead.length_le read)

/-- Nothing is read after the place where room is reserved if reading does not come so far. -/
theorem takeSettings_run_of_room?_eq_none {bytes : Bytes} (stops : room? bytes = none) :
    ∃ fault, takeCheckedHead.run bytes = .error (.format fault) ∧
      takeSettings.run bytes = .error (.format fault) := by
  have safe := guarded_takeCheckedHead.run_ne_overrun bytes
  unfold room? at stops
  rcases read : takeCheckedHead.run bytes with (fault | _) | ⟨head, rest⟩
  · refine ⟨fault, rfl, ?_⟩
    rw [takeSettings, StateT.run_bind, read]
    rfl
  · exact absurd read safe
  · rw [read] at stops
    cases stops

/-- Eight settings stand before the features. -/
theorem length_settings_of_takeCheckedHead {head : Head} {bytes rest : Bytes}
    (read : takeCheckedHead.run bytes = .ok (head, rest)) : head.settings.length = 8 := by
  simp only [takeCheckedHead, takeHead, bind_assoc, pure_bind, run_bind_eq_ok_iff,
    run_pure_eq_ok_iff] at read
  obtain ⟨_, _, -, _, _, -, _, _, -, _, _, -, _, _, -, _, _, -, _, _, -, _, _, -, _, _, -, _, _, -,
    _, _, -, _, _, -, rfl, -⟩ := read
  rfl

/-- When all settings are read, room was reserved for as many features as follow the first eight of
them. -/
theorem room?_of_takeSettings {settings : List Setting} {bytes rest : Bytes}
    (read : takeSettings.run bytes = .ok (settings, rest)) :
    ∃ room, room? bytes = some room ∧ settings.length = 8 + room := by
  simp only [takeSettings, run_bind_eq_ok_iff, takeFeatures_run_eq_ok_iff, run_pure_eq_ok_iff]
    at read
  obtain ⟨head, _, before, features, _, ⟨length, -⟩, _, _, -, rfl, -⟩ := read
  refine ⟨head.count, by rw [room?, before], ?_⟩
  rw [List.length_append, List.length_map, length, length_settings_of_takeCheckedHead before]

end BinaryForm

namespace License

open BinaryForm Decoder

/-- A license is read only past the place where room is reserved, and room is reserved for exactly
its features. -/
theorem room?_of_readBinary {bytes : Bytes} {l : License} (read : readBinary bytes = .ok l) :
    room? bytes = some l.features.length := by
  have found : ofBinary bytes = .ok l := Halt.settle_eq_ok_iff.mpr read
  obtain ⟨written, -⟩ := ofBinary_eq_ok_iff.mp found
  obtain ⟨room, reserved, length⟩ :=
    room?_of_takeSettings (takeSettings_run_eq_ok_iff.mpr ⟨rfl, l, rfl, written⟩)
  have all : l.allSettings.length = 8 + l.features.length := by
    rw [allSettings, List.length_append, List.length_map]
    rfl
  rw [reserved, Nat.add_left_cancel (length.symm.trans all)]

/-- Reading that does not come so far as to reserve room stops with a fault of the form. -/
theorem readBinary_of_room?_eq_none {bytes : Bytes} (stops : room? bytes = none) :
    ∃ fault, takeCheckedHead.run bytes = .error (.format fault) ∧
      readBinary bytes = .error (.format fault) := by
  obtain ⟨fault, before, all⟩ := takeSettings_run_of_room?_eq_none stops
  refine ⟨fault, before, ?_⟩
  rw [readBinary, all]
  rfl

/-- **Reading stays within its bounds.** A read of more bytes than are left is an overrun. None
happens whatever bytes are read as a license: the result is a license or a fault of the form, and
room is reserved for a twelfth as many features as there are bytes at most. -/
theorem readBinary_in_bounds :
    (∀ count (bytes : Bytes), bytes.length < count →
      (next count).run bytes = .error .overrun ∧ (peek count).run bytes = .error .overrun ∧
        (skip count).run bytes = .error .overrun) ∧
      ∀ bytes : Bytes, readBinary bytes ≠ .error .overrun ∧
        ((∃ l, readBinary bytes = .ok l ∧ ofBinary bytes = .ok l) ∨
          ∃ fault, readBinary bytes = .error (.format fault) ∧ ofBinary bytes = .error fault) ∧
        ∀ room, room? bytes = some room → room ≤ bytes.length / 12 := by
  refine ⟨fun count bytes short => ?_, fun bytes => ⟨readBinary_ne_overrun bytes, ?_, ?_⟩⟩
  · exact ⟨by rw [run_next, if_pos short], by rw [run_peek, if_pos short],
      by rw [run_skip, if_pos short]⟩
  · cases result : ofBinary bytes with
    | ok l => exact .inl ⟨l, Halt.settle_eq_ok_iff.mp result, rfl⟩
    | error fault => exact .inr ⟨fault, Halt.settle_eq_error_iff.mp result, rfl⟩
  · intro room reserved
    have fits := leastFeature_mul_room_le reserved
    rw [leastFeature] at fits
    omega

/-- Room for two features is reserved when the license with a lasting feature and one that ends is
read from its binary form. -/
theorem readBinary_in_bounds_specimen :
    ([] : Bytes).length < 1 ∧ (next 1).run [] = .error .overrun ∧
      ∃ bytes, specimen.toBinary = .ok bytes ∧ room? bytes = some 2 ∧ 2 ≤ bytes.length / 12 := by
  obtain ⟨short, within⟩ := readBinary_in_bounds
  have reserved : specimen.toBinary.toOption.bind room? = some 2 := by decide +kernel
  obtain ⟨bytes, written⟩ : ∃ bytes, specimen.toBinary = .ok bytes := ⟨_, rfl⟩
  rw [written] at reserved
  exact ⟨by decide, (short 1 [] (by decide)).1, bytes, written, reserved,
    (within bytes).2.2 2 reserved⟩

end License

end Licensing
