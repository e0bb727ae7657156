import Licensing.Error

/-!
# Decoders

A decoder reads off the start of a byte string. A read takes as many bytes as it is told to, and one
that takes more than are left is an overrun; a guard, which fails in an orderly way when too few are
left, has to stand before it. How many bytes a decoder needs to find, so that no read in it is an
overrun, and how many are left after it, is put together from the same for its parts.

## Main definitions

* `Halt` — why a decoder stops before its end.
* `Decoder` — reads some bytes off the start of a byte string.
* `Decoder.peek`, `Decoder.skip`, `Decoder.next` — the reads.
* `Decoder.check`, `Decoder.need` — conditions and guards.
* `Decoder.Guarded` — no read is an overrun if enough bytes are left.
* `Halt.settle` — the result of a decoder that never overruns.

## Main results

* `Decoder.guarded_need`, `Decoder.guarded_next`, `Decoder.guarded_skip` — a guard provides what a
  read takes.
* `Decoder.Guarded.bind` — one decoder after the other.
-/

namespace Licensing

variable {α β : Type}

/-- Why a decoder stops before its end. -/
inductive Halt where
  /-- The bytes are not those of the form. -/
  | format (fault : FormatFault)
  /-- A read took more bytes than were left. -/
  | overrun
  deriving DecidableEq, Repr

/-- The result of a decoder that never overruns. -/
def Halt.settle : (result : Except Halt α) → result ≠ .error .overrun → Except FormatFault α
  | .ok a, _ => .ok a
  | .error (.format fault), _ => .error fault
  | .error .overrun, safe => absurd rfl safe

theorem Halt.settle_eq_ok_iff {result : Except Halt α} {safe : result ≠ .error .overrun} {a : α} :
    settle result safe = .ok a ↔ result = .ok a := by
  rcases result with (fault | _) | b
  · simp [settle]
  · exact absurd rfl safe
  · simp [settle]

theorem Halt.settle_eq_error_iff {result : Except Halt α} {safe : result ≠ .error .overrun}
    {fault : FormatFault} :
    settle result safe = .error fault ↔ result = .error (.format fault) := by
  rcases result with (fault | _) | b
  · simp [settle]
  · exact absurd rfl safe
  · simp [settle]

/-- Reads some bytes off the start of a byte string, or stops. -/
abbrev Decoder : Type → Type :=
  StateT Bytes (Except Halt)

namespace Decoder

/-- Stops because the bytes are not those of the form. -/
def reject (fault : FormatFault) : Decoder α :=
  throw (.format fault)

/-- Stops unless a condition is met. -/
def check (p : Prop) [Decidable p] (fault : FormatFault) : Decoder Unit :=
  if p then pure () else reject fault

/-- Stops if fewer bytes than needed are left. -/
def need (count : Nat) (part : Part) : Decoder Unit := do
  let bytes ← get
  check (count ≤ bytes.length) (.truncated part)

/-- The next bytes, which stay where they are. -/
def peek (count : Nat) : Decoder Bytes := do
  let bytes ← get
  if bytes.length < count then throw .overrun
  return bytes.take count

/-- Passes over the next bytes. -/
def skip (count : Nat) : Decoder Unit := do
  let bytes ← get
  if bytes.length < count then throw .overrun
  set (bytes.drop count)

/-- The next bytes, which are read off. -/
def next (count : Nat) : Decoder Bytes := do
  let bytes ← peek count
  skip count
  return bytes

/-- The number of the next bytes. -/
def nextNumber (width : Nat) : Decoder Nat := do
  return Bytes.ofBigEndian (← next width)

/-! ### Single steps -/

theorem run_peek (count : Nat) (bytes : Bytes) :
    (peek count).run bytes =
      if bytes.length < count then .error .overrun else .ok (bytes.take count, bytes) := by
  by_cases short : bytes.length < count <;> simp [peek, short] <;> rfl

theorem run_skip (count : Nat) (bytes : Bytes) :
    (skip count).run bytes =
      if bytes.length < count then .error .overrun else .ok ((), bytes.drop count) := by
  by_cases short : bytes.length < count <;> simp [skip, short] <;> rfl

theorem run_next (count : Nat) (bytes : Bytes) :
    (next count).run bytes =
      if bytes.length < count then .error .overrun
      else .ok (bytes.take count, bytes.drop count) := by
  rw [next, StateT.run_bind, run_peek]
  split
  · rfl
  · next enough =>
    change ((skip count).run bytes >>= fun out => pure (bytes.take count, out.2)) = _
    rw [run_skip, if_neg enough]
    rfl

theorem run_check (p : Prop) [Decidable p] (fault : FormatFault) (bytes : Bytes) :
    (check p fault).run bytes = if p then .ok ((), bytes) else .error (.format fault) := by
  by_cases holds : p <;> simp [check, reject, holds] <;> rfl

theorem run_need (count : Nat) (part : Part) (bytes : Bytes) :
    (need count part).run bytes =
      if count ≤ bytes.length then .ok ((), bytes) else .error (.format (.truncated part)) :=
  run_check ..

/-! ### Guards -/

/-- If so many bytes are left before a decoder, no read in it is an overrun, and if it comes to its
end, so many are left after it, and no more than before. -/
def Guarded (before : Nat) (d : Decoder α) (after : Nat) : Prop :=
  ∀ bytes : Bytes, before ≤ bytes.length →
    match d.run bytes with
    | .ok (_, rest) => after ≤ rest.length ∧ rest.length ≤ bytes.length
    | .error halt => halt ≠ .overrun

theorem guarded_pure (a : α) (count : Nat) : Guarded count (pure a) count :=
  fun _ enough => ⟨enough, Nat.le_refl _⟩

theorem guarded_get (count : Nat) : Guarded count get count :=
  fun _ enough => ⟨enough, Nat.le_refl _⟩

theorem guarded_reject (fault : FormatFault) (before after : Nat) :
    Guarded before (reject fault : Decoder α) after :=
  fun _ _ => nofun

theorem guarded_check (p : Prop) [Decidable p] (fault : FormatFault) (count : Nat) :
    Guarded count (check p fault) count := by
  unfold check
  split
  · exact guarded_pure () count
  · exact guarded_reject fault count count

/-- After a guard there are as many bytes as it asks for. -/
theorem guarded_need (count : Nat) (part : Part) : Guarded 0 (need count part) count := by
  intro bytes _
  rw [run_need]
  by_cases enough : count ≤ bytes.length
  · rw [if_pos enough]
    exact ⟨enough, Nat.le_refl _⟩
  · rw [if_neg enough]
    exact nofun

theorem guarded_peek (count more : Nat) :
    Guarded (count + more) (peek count) (count + more) := by
  intro bytes enough
  rw [run_peek, if_neg (by omega)]
  exact ⟨enough, Nat.le_refl _⟩

/-- What a read does not take of the bytes that a guard has found is left for the next one. -/
theorem guarded_skip (count more : Nat) : Guarded (count + more) (skip count) more := by
  intro bytes enough
  rw [run_skip, if_neg (by omega)]
  dsimp only
  rw [List.length_drop]
  omega

/-- What is left after the first of two decoders is what is there for the second one. -/
theorem Guarded.bind {d : Decoder α} {f : α → Decoder β} {before middle after : Nat}
    (first : Guarded before d middle) (second : ∀ a, Guarded middle (f a) after) :
    Guarded before (d >>= f) after := by
  intro bytes enough
  have done := first bytes enough
  rw [StateT.run_bind]
  rcases run : d.run bytes with halt | ⟨a, rest⟩
  · rw [run] at done
    exact done
  · rw [run] at done
    have last := second a rest done.1
    -- The second decoder starts from what the first one has left.
    change match (f a).run rest with
      | .ok (_, rest) => after ≤ rest.length ∧ rest.length ≤ bytes.length
      | .error halt => halt ≠ .overrun
    rcases again : (f a).run rest with halt | ⟨b, fewest⟩
    · rw [again] at last
      exact last
    · rw [again] at last
      exact ⟨last.1, Nat.le_trans last.2 done.2⟩

theorem guarded_next (count more : Nat) : Guarded (count + more) (next count) more :=
  (guarded_peek count more).bind fun bytes =>
    (guarded_skip count more).bind fun _ => guarded_pure bytes more

theorem guarded_nextNumber (width more : Nat) :
    Guarded (width + more) (nextNumber width) more :=
  (guarded_next width more).bind fun _ => guarded_pure _ more

/-- A decoder that needs no bytes before it never overruns. -/
theorem Guarded.run_ne_overrun {d : Decoder α} {after : Nat} (h : Guarded 0 d after)
    (bytes : Bytes) : d.run bytes ≠ .error .overrun := by
  intro stops
  have done := h bytes (Nat.zero_le _)
  rw [stops] at done
  exact done rfl

theorem Guarded.length_le {d : Decoder α} {after : Nat} (h : Guarded 0 d after) {a : α}
    {bytes rest : Bytes} (run : d.run bytes = .ok (a, rest)) : rest.length ≤ bytes.length := by
  have done := h bytes (Nat.zero_le _)
  rw [run] at done
  exact done.2

end Decoder

end Licensing
