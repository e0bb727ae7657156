import Licensing.Bytes.Base64
import Licensing.Proofs.Bytes.Text
import Licensing.Proofs.Except

/-!
# Base64 is read back

A text is read if and only if it is the text of a byte string, which is then what it is read as: the
symbols of a group fix its bytes, and in the last group the padding fills up what is missing and the
bits that are left over are zero.

## Main results

* `Base64.decodeFrom_symbols` — the symbols of a byte string read back as the byte string.
* `Base64.encode_injective` — byte strings with one text are equal.
* `Base64.decode_encode` — the text of a byte string reads back as the byte string.
* `Base64.eq_symbols_of_decodeFrom` — only the symbols of a byte string are read as it.
* `Base64.decode_eq_ok_iff` — which texts are read, and as what.
* `Base64.exists_decode_eq_error_iff` — which texts are refused.
-/

namespace Licensing.Base64

/-! ### Symbols -/

theorem value_symbolOf {n : Nat} (h : n < 64) (offset : Nat) :
    value (symbolOf n) offset = .ok n := by
  rw [value, valueOf?_symbolOf n h]

/-- The padding byte is no symbol. -/
theorem symbolOf_ne_pad {n : Nat} (h : n < 64) : symbolOf n ≠ pad := by
  intro eq
  have none : valueOf? pad = none := by decide
  rw [← eq, valueOf?_symbolOf n h] at none
  cases none

/-! ### Groups -/

/-- A group of four symbols, followed by the reading of what comes after it. -/
theorem decodeFrom_group {s t u v : Nat} (hs : s < 64) (ht : t < 64) (hu : u < 64) (hv : v < 64)
    {start : Nat} {rest bytes : Bytes} (h : decodeFrom (start + 4) rest = .ok bytes) :
    decodeFrom start (symbolOf s :: symbolOf t :: symbolOf u :: symbolOf v :: rest) =
      .ok (UInt8.ofNat (s * 4 + t / 16) :: UInt8.ofNat (t % 16 * 16 + u / 4) ::
        UInt8.ofNat (u % 4 * 64 + v) :: bytes) := by
  cases rest with
  | nil =>
    have empty : bytes = [] := by
      have : decodeFrom (start + 4) [] = .ok [] := rfl
      exact Except.ok.inj (h.symm.trans this)
    subst empty
    simp [decodeFrom, decodeLast, lastSymbols, value_symbolOf, symbolOf_ne_pad, hs, ht, hu, hv,
      bind, Except.bind, pure, Except.pure]
  | cons e rest =>
    simp [decodeFrom, value_symbolOf, hs, ht, hu, hv, h, bind, Except.bind, pure, Except.pure]

/-- A last group of three symbols, which leaves two bits unused. -/
theorem decodeFrom_three {s t u : Nat} (hs : s < 64) (ht : t < 64) (hu : u < 64)
    (unused : u % 4 = 0) (start : Nat) :
    decodeFrom start [symbolOf s, symbolOf t, symbolOf u, pad] =
      .ok [UInt8.ofNat (s * 4 + t / 16), UInt8.ofNat (t % 16 * 16 + u / 4)] := by
  simp [decodeFrom, decodeLast, lastSymbols, value_symbolOf, symbolOf_ne_pad, hs, ht, hu, unused,
    bind, Except.bind, pure, Except.pure]

/-- A last group of two symbols, which leaves four bits unused. -/
theorem decodeFrom_two {s t : Nat} (hs : s < 64) (ht : t < 64) (unused : t % 16 = 0)
    (start : Nat) :
    decodeFrom start [symbolOf s, symbolOf t, pad, pad] = .ok [UInt8.ofNat (s * 4 + t / 16)] := by
  simp [decodeFrom, decodeLast, lastSymbols, value_symbolOf, symbolOf_ne_pad, hs, ht, unused,
    bind, Except.bind, pure, Except.pure]

private theorem ofNat_eq {n : Nat} (byte : UInt8) (h : n = byte.toNat) :
    UInt8.ofNat n = byte := by
  rw [h, UInt8.ofNat_toNat]

/-- The symbols of a byte string read back as the byte string, from whatever offset. -/
theorem decodeFrom_symbols (bytes : Bytes) (start : Nat) :
    decodeFrom start (symbols bytes) = .ok bytes := by
  induction bytes using symbols.induct generalizing start with
  | case1 a b c rest ih =>
    have ha := a.toNat_lt
    have hb := b.toNat_lt
    have hc := c.toNat_lt
    simp only [symbols]
    generalize hn : a.toNat * 65536 + b.toNat * 256 + c.toNat = n
    rw [decodeFrom_group (s := n / 262144) (by omega) (by omega) (by omega) (by omega)
      (ih (start + 4))]
    rw [ofNat_eq a (by omega), ofNat_eq b (by omega),
      ofNat_eq c (by omega)]
  | case2 a b =>
    have ha := a.toNat_lt
    have hb := b.toNat_lt
    simp only [symbols]
    generalize hn : a.toNat * 1024 + b.toNat * 4 = n
    rw [decodeFrom_three (by omega) (by omega) (by omega) (by omega)]
    rw [ofNat_eq a (by omega), ofNat_eq b (by omega)]
  | case3 a =>
    have ha := a.toNat_lt
    simp only [symbols]
    generalize hn : a.toNat * 16 = n
    rw [decodeFrom_two (by omega) (by omega) (by omega)]
    rw [ofNat_eq a (by omega)]
  | case4 => rfl

/-! ### Texts -/

private theorem toNat_charOf (byte : UInt8) : (Char.ofNat byte.toNat).toNat = byte.toNat := by
  have valid : byte.toNat.isValidChar := .inl (by have := byte.toNat_lt; omega)
  rw [Char.ofNat, dif_pos valid]
  rfl

private theorem charOf_injective :
    Function.Injective fun byte : UInt8 => Char.ofNat byte.toNat := by
  intro a b h
  apply UInt8.toNat_inj.mp
  rw [← toNat_charOf a, ← toNat_charOf b]
  exact congrArg Char.toNat h

/-- Byte strings with one text are equal. -/
theorem encode_injective : Function.Injective encode := by
  intro bytes other h
  have symbols_eq : symbols bytes = symbols other :=
    charOf_injective.list_map (String.ofList_injective h)
  have read := decodeFrom_symbols bytes 0
  rw [symbols_eq, decodeFrom_symbols other 0] at read
  exact (Except.ok.inj read).symm

theorem symbolOf_lt (n : Nat) : (symbolOf n).toNat < 128 := by
  by_cases h : n < 64
  · have all : ∀ m, m < 64 → (symbolOf m).toNat < 128 := by decide +kernel
    exact all n h
  · have slash : symbolOf n = '/'.toUInt8 := by
      rw [symbolOf, if_neg (by omega), if_neg (by omega), if_neg (by omega), if_neg (by omega)]
    rw [slash]
    decide

/-- Symbols and padding are ASCII. -/
theorem lt_of_mem_symbols (bytes : Bytes) : ∀ byte ∈ symbols bytes, byte.toNat < 128 := by
  have padding : pad.toNat < 128 := by decide
  induction bytes using symbols.induct with
  | case1 a b c rest ih => simpa [symbols, symbolOf_lt] using ih
  | case2 a b => simp [symbols, symbolOf_lt, padding]
  | case3 a => simp [symbols, symbolOf_lt, padding]
  | case4 => simp [symbols]

/-- Symbols and padding come in groups of four. -/
theorem length_symbols_mod (bytes : Bytes) : (symbols bytes).length % 4 = 0 := by
  induction bytes using symbols.induct with
  | case1 a b c rest ih =>
    simp only [symbols, List.length_cons]
    omega
  | case2 => simp [symbols]
  | case3 => simp [symbols]
  | case4 => simp [symbols]

/-- The bytes of the text are the symbols. -/
theorem ofText_encode (bytes : Bytes) : Bytes.ofText (encode bytes) = symbols bytes := by
  have ascii : ∀ c ∈ (encode bytes).toList, c.toNat < 128 := by
    intro c mem
    rw [encode, String.toList_ofList, List.mem_map] at mem
    obtain ⟨byte, mem, rfl⟩ := mem
    rw [toNat_charOf]
    exact lt_of_mem_symbols bytes byte mem
  rw [Bytes.ofText_of_ascii ascii, encode, String.toList_ofList, List.map_map]
  exact (List.map_congr_left fun byte _ => by simp [toNat_charOf]).trans (List.map_id _)

/-- The text of a byte string reads back as the byte string. -/
theorem decode_encode (bytes : Bytes) : decode (encode bytes) = .ok bytes := by
  have whole : strayLast? (symbols bytes) = none := by
    have length := length_symbols_mod bytes
    unfold strayLast?
    split
    · rw [if_neg (by omega)]
    · rfl
  simp only [decode, ofText_encode, whole]
  exact decodeFrom_symbols bytes 0

/-! ### Nothing else is read -/

theorem of_value_eq_ok {byte : UInt8} {offset n : Nat} (h : value byte offset = .ok n) :
    n < 64 ∧ symbolOf n = byte := by
  rw [value] at h
  split at h
  · next found =>
    cases h
    exact symbolOf_of_valueOf? found
  · cases h

/-- The symbols of three bytes are those whose numbers make up the bytes. -/
theorem symbols_group {s t u v : Nat} (hs : s < 64) (ht : t < 64) (hu : u < 64) (hv : v < 64)
    (bytes : Bytes) :
    symbols (UInt8.ofNat (s * 4 + t / 16) :: UInt8.ofNat (t % 16 * 16 + u / 4) ::
        UInt8.ofNat (u % 4 * 64 + v) :: bytes) =
      symbolOf s :: symbolOf t :: symbolOf u :: symbolOf v :: symbols bytes := by
  simp only [symbols, UInt8.toNat_ofNat']
  have whole : (s * 4 + t / 16) % 2 ^ 8 * 65536 + (t % 16 * 16 + u / 4) % 2 ^ 8 * 256 +
      (u % 4 * 64 + v) % 2 ^ 8 = s * 262144 + t * 4096 + u * 64 + v := by omega
  have first : (s * 262144 + t * 4096 + u * 64 + v) / 262144 = s := by omega
  have second : (s * 262144 + t * 4096 + u * 64 + v) / 4096 % 64 = t := by omega
  have third : (s * 262144 + t * 4096 + u * 64 + v) / 64 % 64 = u := by omega
  have fourth : (s * 262144 + t * 4096 + u * 64 + v) % 64 = v := by omega
  rw [whole, first, second, third, fourth]

/-- The symbols of two bytes, the last of which leaves two bits unused. -/
theorem symbols_three {s t u : Nat} (hs : s < 64) (ht : t < 64) (hu : u < 64)
    (unused : u % 4 = 0) :
    symbols [UInt8.ofNat (s * 4 + t / 16), UInt8.ofNat (t % 16 * 16 + u / 4)] =
      [symbolOf s, symbolOf t, symbolOf u, pad] := by
  simp only [symbols, UInt8.toNat_ofNat']
  have whole : (s * 4 + t / 16) % 2 ^ 8 * 1024 + (t % 16 * 16 + u / 4) % 2 ^ 8 * 4 =
      s * 4096 + t * 64 + u := by omega
  have first : (s * 4096 + t * 64 + u) / 4096 = s := by omega
  have second : (s * 4096 + t * 64 + u) / 64 % 64 = t := by omega
  have third : (s * 4096 + t * 64 + u) % 64 = u := by omega
  rw [whole, first, second, third]

/-- The symbols of one byte, the last of which leaves four bits unused. -/
theorem symbols_two {s t : Nat} (hs : s < 64) (ht : t < 64) (unused : t % 16 = 0) :
    symbols [UInt8.ofNat (s * 4 + t / 16)] = [symbolOf s, symbolOf t, pad, pad] := by
  simp only [symbols, UInt8.toNat_ofNat']
  have whole : (s * 4 + t / 16) % 2 ^ 8 * 16 = s * 64 + t := by omega
  have first : (s * 64 + t) / 64 = s := by omega
  have second : (s * 64 + t) % 64 = t := by omega
  rw [whole, first, second]

/-- The bytes of a last group are the symbols of the numbers that were read, and the padding after
them. -/
theorem of_lastSymbols_eq_ok {start index padding : Nat} {padded : Option Nat} {group : Bytes}
    {values : List Nat} (h : lastSymbols start index padded group = .ok (values, padding)) :
    group = values.map symbolOf ++ List.replicate padding pad ∧ (∀ n ∈ values, n < 64) ∧
      (padded.isSome → values = []) := by
  induction group generalizing index padded values padding with
  | nil =>
    cases h
    simp
  | cons byte group ih =>
    unfold lastSymbols at h
    split_ifs at h with isPad early
    · simp only [bind_eq_ok_iff, pure_eq_ok_iff, Prod.mk.injEq] at h
      obtain ⟨⟨values, count⟩, read, rfl, rfl⟩ := h
      -- nothing but padding follows padding
      obtain ⟨rfl, -, only⟩ := ih read
      have none : values = [] := only (by cases padded <;> rfl)
      subst none
      simp [isPad, List.replicate_succ]
    · cases padded with
      | some offset => cases h
      | none =>
        simp only [bind_eq_ok_iff, pure_eq_ok_iff, Prod.mk.injEq] at h
        obtain ⟨n, read, ⟨values, count⟩, others, rfl, rfl⟩ := h
        obtain ⟨small, rfl⟩ := of_value_eq_ok read
        obtain ⟨rfl, smaller, -⟩ := ih others
        exact ⟨rfl, List.forall_mem_cons.mpr ⟨small, smaller⟩, by simp⟩

/-- Only the symbols of a byte string are read as it, in the last group. -/
theorem eq_symbols_of_decodeLast {start : Nat} {group bytes : Bytes}
    (h : decodeLast start group = .ok bytes) : group = symbols bytes := by
  simp only [decodeLast, bind_eq_ok_iff] at h
  obtain ⟨⟨values, padding⟩, read, h⟩ := h
  obtain ⟨rfl, small, -⟩ := of_lastSymbols_eq_ok read
  dsimp only at h
  split_ifs at h with empty few odd
  · rw [empty]
    cases h
    rfl
  · have four : values.length + padding = 4 := not_not.mp odd
    rcases values with _ | ⟨s, _ | ⟨t, _ | ⟨u, _ | ⟨v, others⟩⟩⟩⟩
    all_goals dsimp only [List.length_cons, List.length_nil] at h few four
    · exact absurd (by decide) few
    · exact absurd (by decide) few
    · split_ifs at h with set
      cases h
      obtain rfl : padding = 2 := by omega
      simp only [List.forall_mem_cons] at small
      rw [symbols_two small.1 small.2.1 (not_not.mp set)]
      rfl
    · split_ifs at h with set
      cases h
      obtain rfl : padding = 1 := by omega
      simp only [List.forall_mem_cons] at small
      rw [symbols_three small.1 small.2.1 small.2.2.1 (not_not.mp set)]
      rfl
    · cases h
      obtain ⟨rfl, rfl⟩ : others = [] ∧ padding = 0 := by
        rw [← List.length_eq_zero_iff]
        omega
      simp only [List.forall_mem_cons] at small
      rw [symbols_group small.1 small.2.1 small.2.2.1 small.2.2.2.1]
      rfl

/-- Only the symbols of a byte string are read as it. -/
theorem eq_symbols_of_decodeFrom {start : Nat} {text bytes : Bytes}
    (h : decodeFrom start text = .ok bytes) : text = symbols bytes := by
  induction start, text using decodeFrom.induct generalizing bytes with
  | case1 start a b c d e rest ih =>
    simp only [decodeFrom, bind_eq_ok_iff, pure_eq_ok_iff] at h
    obtain ⟨s, first, t, second, u, third, v, fourth, others, read, rfl⟩ := h
    obtain ⟨hs, rfl⟩ := of_value_eq_ok first
    obtain ⟨ht, rfl⟩ := of_value_eq_ok second
    obtain ⟨hu, rfl⟩ := of_value_eq_ok third
    obtain ⟨hv, rfl⟩ := of_value_eq_ok fourth
    rw [symbols_group hs ht hu hv, ← ih read]
  | case2 start group last =>
    rw [decodeFrom] at h
    · exact eq_symbols_of_decodeLast h
    · exact last

/-- A text is read as a byte string if and only if it is the text of the byte string. -/
theorem decode_eq_ok_iff {text : String} {bytes : Bytes} :
    decode text = .ok bytes ↔ text = encode bytes := by
  constructor
  · intro h
    simp only [decode] at h
    split at h
    · cases h
    · have read := eq_symbols_of_decodeFrom h
      rw [← ofText_encode] at read
      exact Bytes.ofText_injective read
  · rintro rfl
    exact decode_encode bytes

/-- A text is refused if and only if it is the text of no byte string. -/
theorem exists_decode_eq_error_iff {text : String} :
    (∃ fault, decode text = .error fault) ↔ ∀ bytes, text ≠ encode bytes := by
  rw [exists_eq_error_iff]
  exact forall_congr' fun _ => not_congr decode_eq_ok_iff

end Licensing.Base64
