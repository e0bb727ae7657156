import Licensing.Proofs.License.BinaryForm

/-!
# The binary form tells where it ends

Each decoder of the binary form takes the bytes that are written for its part and leaves the others
alone, whatever they are; and when the byte string ends before the part does, it stops because bytes
are wanting. So the binary form of a license is read neither from a part of it nor from it and more.

## Main definitions

* `FormatFault.IsShortage`, `Halt.IsShortage` — bytes are wanting.
* `Decoder.Delimited` — what a decoder takes does not depend on what follows, and nothing less is
  enough for it.
* `BinaryForm.takeValues` — the settings, with no regard to what follows them.

## Main results

* `Decoder.Delimited.bind` — one delimited decoder after the other.
* `BinaryForm.delimited_takeValues` — the settings of a license are delimited.
* `License.binary_self_delimiting` — what is read from less or more than the binary form.
-/

namespace Licensing

/-- Bytes are wanting: a part is cut off, or more features are announced than the rest can hold. -/
inductive FormatFault.IsShortage : FormatFault → Prop where
  | truncated (part : Part) : IsShortage (.truncated part)
  | featureCount (count : Nat) : IsShortage (.featureCount count)

/-- A decoder stops because bytes are wanting, whether or not a guard has noticed. -/
def Halt.IsShortage : Halt → Prop
  | .format fault => fault.IsShortage
  | .overrun => True

variable {α β : Type}

namespace Decoder

open BinaryForm

/-- What a decoder reads does not depend on the bytes that it leaves, and if the byte string ends
before as many are read, the decoder stops because bytes are wanting. -/
structure Delimited (d : Decoder α) : Prop where
  append {a : α} {bytes rest : Bytes} (read : d.run bytes = .ok (a, rest)) (more : Bytes) :
    d.run (bytes ++ more) = .ok (a, rest ++ more)
  cut {a : α} {bytes more rest : Bytes} (read : d.run (bytes ++ more) = .ok (a, rest)) :
    (∃ left, rest = left ++ more ∧ d.run bytes = .ok (a, left)) ∨
      ∃ halt, d.run bytes = .error halt ∧ halt.IsShortage

theorem delimited_pure (a : α) : Delimited (pure a) where
  append read more := by
    obtain ⟨rfl, rfl⟩ := run_pure_eq_ok_iff.mp read
    rfl
  cut read := by
    obtain ⟨rfl, rfl⟩ := run_pure_eq_ok_iff.mp read
    exact .inl ⟨_, rfl, rfl⟩

theorem delimited_reject (fault : FormatFault) : Delimited (reject fault : Decoder α) where
  append := nofun
  cut := nofun

theorem delimited_check (p : Prop) [Decidable p] (fault : FormatFault) :
    Delimited (check p fault) := by
  unfold check
  split
  · exact delimited_pure ()
  · exact delimited_reject fault

theorem delimited_need (count : Nat) (part : Part) : Delimited (need count part) where
  append read more := by
    obtain ⟨enough, rfl⟩ := need_run_eq_ok_iff.mp read
    refine need_run_eq_ok_iff.mpr ⟨?_, rfl⟩
    rw [List.length_append]
    omega
  cut {_ bytes _ _} read := by
    obtain ⟨-, rfl⟩ := need_run_eq_ok_iff.mp read
    by_cases enough : count ≤ bytes.length
    · exact .inl ⟨bytes, rfl, need_run_eq_ok_iff.mpr ⟨enough, rfl⟩⟩
    · exact .inr ⟨.format (.truncated part), by rw [run_need, if_neg enough], .truncated part⟩

theorem delimited_peek (count : Nat) : Delimited (peek count) where
  append read more := by
    obtain ⟨enough, rfl, rfl⟩ := peek_run_eq_ok_iff.mp read
    refine peek_run_eq_ok_iff.mpr ⟨?_, (List.take_append_of_le_length enough).symm, rfl⟩
    rw [List.length_append]
    omega
  cut {_ bytes _ _} read := by
    obtain ⟨-, rfl, rfl⟩ := peek_run_eq_ok_iff.mp read
    by_cases short : bytes.length < count
    · exact .inr ⟨.overrun, by rw [run_peek, if_pos short], trivial⟩
    · have enough := Nat.le_of_not_lt short
      refine .inl ⟨bytes, rfl, peek_run_eq_ok_iff.mpr ⟨enough, ?_, rfl⟩⟩
      exact List.take_append_of_le_length enough

theorem delimited_skip (count : Nat) : Delimited (skip count) where
  append read more := by
    obtain ⟨enough, rfl⟩ := skip_run_eq_ok_iff.mp read
    refine skip_run_eq_ok_iff.mpr ⟨?_, (List.drop_append_of_le_length enough).symm⟩
    rw [List.length_append]
    omega
  cut {_ bytes _ _} read := by
    obtain ⟨-, rfl⟩ := skip_run_eq_ok_iff.mp read
    by_cases short : bytes.length < count
    · exact .inr ⟨.overrun, by rw [run_skip, if_pos short], trivial⟩
    · have enough := Nat.le_of_not_lt short
      refine .inl ⟨bytes.drop count, List.drop_append_of_le_length enough, ?_⟩
      exact skip_run_eq_ok_iff.mpr ⟨enough, rfl⟩

/-- The second decoder takes from what the first one leaves; if that ends too soon, so does the
whole. -/
theorem Delimited.bind {d : Decoder α} {f : α → Decoder β} (first : Delimited d)
    (second : ∀ a, Delimited (f a)) : Delimited (d >>= f) where
  append read more := by
    obtain ⟨a, middle, done, last⟩ := run_bind_eq_ok_iff.mp read
    exact run_bind_eq_ok_iff.mpr ⟨a, _, first.append done more, (second a).append last more⟩
  cut {_ bytes _ _} read := by
    obtain ⟨a, middle, done, last⟩ := run_bind_eq_ok_iff.mp read
    rcases first.cut done with ⟨left, rfl, early⟩ | ⟨halt, stops, short⟩
    · rcases (second a).cut last with ⟨fewest, rfl, late⟩ | ⟨halt, stops, short⟩
      · exact .inl ⟨fewest, rfl, run_bind_eq_ok_iff.mpr ⟨a, left, early, late⟩⟩
      · refine .inr ⟨halt, ?_, short⟩
        rw [StateT.run_bind, early, ok_bind]
        exact stops
    · refine .inr ⟨halt, ?_, short⟩
      rw [StateT.run_bind, stops, error_bind]

theorem delimited_next (count : Nat) : Delimited (next count) :=
  (delimited_peek count).bind fun bytes => (delimited_skip count).bind fun _ => delimited_pure bytes

theorem delimited_nextNumber (width : Nat) : Delimited (nextNumber width) :=
  (delimited_next width).bind fun _ => delimited_pure _

end Decoder

namespace BinaryForm

open Decoder

theorem delimited_nextDate : Delimited nextDate :=
  (delimited_nextNumber 8).bind fun _ => delimited_pure _

theorem delimited_takeText (part : Part) : Delimited (takeText part) := by
  refine (delimited_need 4 part).bind fun _ => (delimited_nextNumber 4).bind fun length => ?_
  refine (delimited_need length part).bind fun _ => (delimited_peek length).bind fun bytes => ?_
  split
  · exact (delimited_skip length).bind fun _ => delimited_pure _
  · exact delimited_reject _

theorem delimited_takeHeader : Delimited takeHeader := by
  refine (delimited_need 5 .header).bind fun _ => (delimited_next 4).bind fun mark => ?_
  refine (delimited_check (mark = magic) _).bind fun _ => (delimited_next 1).bind fun found => ?_
  exact delimited_check (found = [version]) _

theorem delimited_takeFeature : Delimited takeFeature := by
  refine (delimited_takeText _).bind fun _ => (delimited_need 8 _).bind fun _ => ?_
  exact delimited_nextDate.bind fun _ => delimited_pure _

theorem delimited_takeFeatures (count : Nat) : Delimited (takeFeatures count) := by
  induction count with
  | zero => exact delimited_pure []
  | succ count ih =>
    exact delimited_takeFeature.bind fun _ => ih.bind fun _ => delimited_pure _

/-- More bytes can hold as many features, and fewer of them are too few if they cannot. -/
theorem delimited_checkCount (count : Nat) : Delimited (checkCount count) where
  append read more := by
    obtain ⟨enough, rfl⟩ := checkCount_run_eq_ok_iff.mp read
    refine checkCount_run_eq_ok_iff.mpr ⟨?_, rfl⟩
    rw [List.length_append]
    omega
  cut {_ bytes _ _} read := by
    obtain ⟨-, rfl⟩ := checkCount_run_eq_ok_iff.mp read
    by_cases enough : count ≤ bytes.length / leastFeature
    · refine .inl ⟨bytes, rfl, ?_⟩
      change (check _ _).run bytes = _
      rw [run_check, if_pos enough]
    · refine .inr ⟨.format (.featureCount count), ?_, .featureCount count⟩
      change (check _ _).run bytes = _
      rw [run_check, if_neg enough]

theorem delimited_takeHead : Delimited takeHead := by
  refine delimited_takeHeader.bind fun _ => (delimited_takeText _).bind fun _ => ?_
  refine (delimited_takeText _).bind fun _ => (delimited_takeText _).bind fun _ => ?_
  refine (delimited_takeText _).bind fun _ => (delimited_need 32 _).bind fun _ => ?_
  refine delimited_nextDate.bind fun _ => delimited_nextDate.bind fun _ => ?_
  refine delimited_nextDate.bind fun _ => (delimited_nextNumber 4).bind fun _ => ?_
  exact (delimited_nextNumber 4).bind fun _ => delimited_pure _

theorem delimited_takeCheckedHead : Delimited takeCheckedHead :=
  delimited_takeHead.bind fun head =>
    (delimited_checkCount head.count).bind fun _ => delimited_pure head

/-- The settings of a license in binary form, whatever follows them. -/
def takeValues : Decoder (List Setting) := do
  let head ← takeCheckedHead
  let features ← takeFeatures head.count
  return head.settings ++ features.map .feature

/-- The settings are read first; that nothing follows them is looked at last. -/
theorem takeSettings_eq :
    takeSettings = takeValues >>= fun settings => atEnd >>= fun _ => pure settings := by
  simp only [takeSettings, takeValues, bind_assoc, pure_bind]

theorem delimited_takeValues : Delimited takeValues :=
  delimited_takeCheckedHead.bind fun head =>
    (delimited_takeFeatures head.count).bind fun _ => delimited_pure _

end BinaryForm

namespace License

open BinaryForm Decoder

variable {l : License} {bytes : Bytes}

/-- Of the binary form of a license no byte is left. -/
theorem takeValues_run_of_toBinary (written : l.toBinary = .ok bytes) :
    takeValues.run bytes = .ok (l.allSettings, []) := by
  have read := takeSettings_run_eq_ok_iff.mpr ⟨rfl, l, rfl, written⟩
  rw [takeSettings_eq] at read
  simp only [run_bind_eq_ok_iff, atEnd_run_eq_ok_iff, run_pure_eq_ok_iff] at read
  obtain ⟨_, _, done, _, _, ⟨rfl, rfl⟩, rfl, -⟩ := read
  exact done

/-- The bytes after the binary form of a license are counted. -/
theorem takeSettings_run_append (written : l.toBinary = .ok bytes) {more : Bytes}
    (present : more ≠ []) :
    takeSettings.run (bytes ++ more) = .error (.format (.trailing more.length)) := by
  have done := delimited_takeValues.append (takeValues_run_of_toBinary written) more
  rw [takeSettings_eq, StateT.run_bind, done, ok_bind]
  have stops : atEnd.run more = .error (.format (.trailing more.length)) := by
    change (check _ _).run more = _
    rw [run_check, if_neg present]
  change (atEnd.run more >>= fun _ => _) = _
  rw [stops, error_bind]

/-- If a byte string is the start of the binary form of a license, reading its settings stops
because bytes are wanting. -/
theorem takeSettings_run_cut {start more : Bytes} (written : l.toBinary = .ok (start ++ more))
    (present : more ≠ []) :
    ∃ fault, takeSettings.run start = .error (.format fault) ∧ fault.IsShortage := by
  rcases delimited_takeValues.cut (takeValues_run_of_toBinary written) with
    ⟨left, whole, -⟩ | ⟨halt, stops, short⟩
  · exact absurd (List.append_eq_nil_iff.mp whole.symm).2 present
  · have halts : takeSettings.run start = .error halt := by
      rw [takeSettings_eq, StateT.run_bind, stops, error_bind]
    cases halt with
    | format fault => exact ⟨fault, halts, short⟩
    | overrun => exact absurd halts (guarded_takeSettings.run_ne_overrun start)

theorem ofBinary_eq_error {fault : FormatFault}
    (stops : takeSettings.run bytes = .error (.format fault)) : ofBinary bytes = .error fault := by
  refine Halt.settle_eq_error_iff.mpr ?_
  rw [readBinary, stops, error_bind]

/-- **The binary form tells where it ends.** No license is read from the binary form of one when
bytes are cut off its end: reading stops because bytes are wanting. None is read either when bytes
follow it: they are counted. So the binary form of a license is no proper start of that of
another. -/
theorem binary_self_delimiting (written : l.toBinary = .ok bytes) :
    (∀ start, start <+: bytes → start ≠ bytes →
      ∃ fault, ofBinary start = .error fault ∧ fault.IsShortage) ∧
      (∀ more, more ≠ [] →
        ofBinary (bytes ++ more) = .error (.trailing more.length) ∧
          (FormatFault.trailing more.length).message =
            Numeral.ofNat more.length ++ " trailing bytes after license") ∧
        ∀ (other : License) longer, other.toBinary = .ok longer → bytes <+: longer →
          bytes = longer := by
  refine ⟨?_, fun more present => ?_, ?_⟩
  · rintro start ⟨more, rfl⟩ proper
    have present : more ≠ [] := fun none => proper (by rw [none, List.append_nil])
    obtain ⟨fault, stops, short⟩ := takeSettings_run_cut written present
    exact ⟨fault, ofBinary_eq_error stops, short⟩
  · exact ⟨ofBinary_eq_error (takeSettings_run_append written present), rfl⟩
  · rintro other _ rewritten ⟨more, rfl⟩
    by_contra proper
    have present : more ≠ [] := fun none => proper (by rw [none, List.append_nil])
    have stops := takeSettings_run_append written present
    rw [takeSettings_run_eq_ok_iff.mpr ⟨rfl, other, rfl, rewritten⟩] at stops
    cases stops

/-- The license with a lasting feature and one that ends is read neither without the last byte of
its binary form nor with three more. -/
theorem binary_self_delimiting_specimen :
    ∃ bytes, specimen.toBinary = .ok bytes ∧
      (∃ fault, ofBinary bytes.dropLast = .error fault ∧ fault.IsShortage) ∧
        ofBinary (bytes ++ [0, 0, 7]) = .error (.trailing 3) := by
  obtain ⟨bytes, written⟩ : ∃ bytes, specimen.toBinary = .ok bytes := ⟨_, rfl⟩
  obtain ⟨cut, append, -⟩ := binary_self_delimiting written
  have proper : bytes.dropLast ≠ bytes := fun same => by
    have present : specimen.toBinary ≠ .ok [] := by decide
    have length := congrArg List.length same
    rw [List.length_dropLast] at length
    rw [written, List.length_eq_zero_iff.mp (by omega : bytes.length = 0)] at present
    exact present rfl
  exact ⟨bytes, written, cut _ (List.dropLast_prefix bytes) proper,
    (append [0, 0, 7] (List.cons_ne_nil _ _)).1⟩

end License

end Licensing
