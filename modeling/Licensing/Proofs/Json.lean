import Licensing.Json.Quoted
import Licensing.Json.Value
import Mathlib.Tactic.IntervalCases

/-!
# Written JSON documents are read back

An object whose members are texts is written with a member on each line. Reading the document gives
the same members in the same order, whatever characters the texts hold.

## Main definitions

* `Json.textMember`, `Json.textTokens` — a member with a text for its value, as it is written and as
  it is cut into tokens.

## Main results

* `Json.characters_map_toNat` — characters are read back from their code points.
* `Json.tokensFrom_quote` — a text between quotes is one token.
* `Json.Value.ofDocument?_object` — an object of texts is read back.
-/

namespace Licensing.Json

/-! ### Characters -/

/-- No character is half of one. -/
theorem not_isHigh_toNat (c : Char) : isHigh c.toNat = false ∧ isLow c.toNat = false := by
  have valid : c.toNat < 0xd800 ∨ 0xdfff < c.toNat ∧ c.toNat < 0x110000 := c.valid
  simp only [isHigh, isLow, Bool.and_eq_false_iff, decide_eq_false_iff_not]
  omega

/-- Characters are read back from their code points. -/
theorem characters_map_toNat (chars : List Char) :
    characters (chars.map Char.toNat) = some chars := by
  induction chars with
  | nil => rfl
  | cons c chars ih =>
    obtain ⟨high, low⟩ := not_isHigh_toNat c
    cases chars with
    | nil => simp [characters, high, low, Char.ofNat_toNat]
    | cons next chars =>
      rw [List.map_cons, List.map_cons] at *
      simp [characters, high, low, ih, Char.ofNat_toNat]

/-! ### Tokens -/

/-- A character within a token. -/
theorem tokensFrom_of_step {mode next : Mode} {c : Char} (h : step mode c = some ([], next))
    (rest : List Char) : tokensFrom mode (c :: rest) = tokensFrom next rest := by
  rw [tokensFrom, h]
  simp

/-- A character that ends a token. -/
theorem tokensFrom_of_step_token {mode next : Mode} {c : Char} {token : Token}
    (h : step mode c = some ([token], next)) (rest : List Char) :
    tokensFrom mode (c :: rest) = (tokensFrom next rest).map (token :: ·) := by
  rw [tokensFrom, h]
  change (tokensFrom next rest).bind _ = _
  cases tokensFrom next rest <;> rfl

theorem hexDigit?_digit {n : Nat} (h : n < 16) : hexDigit? (Hex.digit n) = some n := by
  interval_cases n <;> rfl

/-- A backslash begins an escape. -/
theorem tokensFrom_backslash (seen : List Nat) (rest : List Char) :
    tokensFrom (.text seen) ('\\' :: rest) = tokensFrom (.escape seen) rest :=
  tokensFrom_of_step rfl rest

/-- A digit of an escape with four digits. -/
theorem tokensFrom_digit {n : Nat} (h : n < 16) (seen : List Nat) (left value : Nat)
    (rest : List Char) :
    tokensFrom (.hex seen (left + 1) value) (Hex.digit n :: rest) =
      tokensFrom (if left = 0 then .text ((16 * value + n) :: seen)
        else .hex seen left (16 * value + n)) rest := by
  refine tokensFrom_of_step ?_ rest
  simp only [step, hexDigit?_digit h]
  cases left <;> rfl

/-- A character that is escaped with the four digits of its code point is read back. -/
theorem tokensFrom_hex {n : Nat} (h : n < 0x20) (seen : List Nat) (rest : List Char) :
    tokensFrom (.text seen)
        ('\\' :: 'u' :: '0' :: '0' :: Hex.digit (n / 16) :: Hex.digit (n % 16) :: rest) =
      tokensFrom (.text (n :: seen)) rest := by
  have zero : '0' = Hex.digit 0 := rfl
  have four (rest : List Char) :
      tokensFrom (.escape seen) ('u' :: rest) = tokensFrom (.hex seen 4 0) rest :=
    tokensFrom_of_step rfl rest
  have value : 16 * (16 * (16 * (16 * 0 + 0) + 0) + n / 16) + n % 16 = n := by omega
  rw [tokensFrom_backslash, four, zero, tokensFrom_digit (by decide), if_neg (by decide),
    tokensFrom_digit (by decide), if_neg (by decide), tokensFrom_digit (by omega),
    if_neg (by decide), tokensFrom_digit (by omega), if_pos rfl, value]

/-- A character that is escaped with one other character is read back. -/
theorem tokensFrom_escaped {letter : Char} {unit : Nat} (plain : letter ≠ 'u')
    (h : escaped? letter = some unit) (seen : List Nat) (rest : List Char) :
    tokensFrom (.text seen) ('\\' :: letter :: rest) = tokensFrom (.text (unit :: seen)) rest := by
  have step : step (.escape seen) letter = some ([], .text (unit :: seen)) := by
    simp [step, plain, h]
  rw [tokensFrom_backslash, tokensFrom_of_step step]

/-- A character between quotes is read back, escaped or not. -/
theorem tokensFrom_escape (c : Char) (seen : List Nat) (rest : List Char) :
    tokensFrom (.text seen) (escape c ++ rest) = tokensFrom (.text (c.toNat :: seen)) rest := by
  unfold escape
  split_ifs with quote backslash b t n f r control
  · subst quote
    exact tokensFrom_escaped (by decide) rfl seen rest
  · subst backslash
    exact tokensFrom_escaped (by decide) rfl seen rest
  · subst b
    exact tokensFrom_escaped (by decide) rfl seen rest
  · subst t
    exact tokensFrom_escaped (by decide) rfl seen rest
  · subst n
    exact tokensFrom_escaped (by decide) rfl seen rest
  · subst f
    exact tokensFrom_escaped (by decide) rfl seen rest
  · subst r
    exact tokensFrom_escaped (by decide) rfl seen rest
  · exact tokensFrom_hex control seen rest
  · have plain : step (.text seen) c = some ([], .text (c.toNat :: seen)) := by
      simp [step, quote, backslash, control]
    exact tokensFrom_of_step plain rest

theorem tokensFrom_flatMap_escape (chars : List Char) (seen : List Nat) (rest : List Char) :
    tokensFrom (.text seen) (chars.flatMap escape ++ rest) =
      tokensFrom (.text ((chars.map Char.toNat).reverse ++ seen)) rest := by
  induction chars generalizing seen with
  | nil => rfl
  | cons c chars ih =>
    rw [List.flatMap_cons, List.append_assoc, tokensFrom_escape, ih]
    simp

theorem tokensFrom_opening (rest : List Char) :
    tokensFrom .between ('"' :: rest) = tokensFrom (.text []) rest :=
  tokensFrom_of_step rfl rest

/-- A text between quotes is one token. -/
theorem tokensFrom_quote (text : String) (rest : List Char) :
    tokensFrom .between ((quote text).toList ++ rest) =
      (tokensFrom .between rest).map (.text (some text) :: ·) := by
  have close : step (.text (text.toList.map Char.toNat).reverse) '"' =
      some ([.text (some text)], .between) := by
    simp [step, characters_map_toNat, String.ofList_toList]
  rw [quote, String.toList_ofList, List.append_assoc, List.append_assoc, List.singleton_append,
    tokensFrom_opening, tokensFrom_flatMap_escape, List.append_nil,
    List.singleton_append, tokensFrom_of_step_token close]

/-! ### Objects -/

/-- A member with a text for its value, as it is written. -/
def textMember (member : String × String) : String × String :=
  (member.1, quote member.2)

/-- The tokens of a member with a text for its value. -/
def textTokens (member : String × String) : List Token :=
  [.text (some member.1), .colon, .text (some member.2)]

/-- Joined pieces are the first piece and, for each other one, the separator and the piece. -/
theorem intercalate_cons {α : Type} (separator first : List α) (others : List (List α)) :
    separator.intercalate (first :: others) = first ++ others.flatMap (separator ++ ·) := by
  induction others generalizing first with
  | nil => simp
  | cons next others ih =>
    rw [List.intercalate_cons_cons, ih, List.flatMap_cons, List.append_assoc, List.append_assoc]

theorem tokensFrom_blank {c : Char} (h : isBlank c = true) (rest : List Char) :
    tokensFrom .between (c :: rest) = tokensFrom .between rest := by
  have blank : step .between c = some ([], .between) := by
    simp only [isBlank, Bool.or_eq_true, beq_iff_eq] at h
    rcases h with ((rfl | rfl) | rfl) | rfl <;> rfl
  exact tokensFrom_of_step blank rest

/-- A mark is a token. -/
theorem tokensFrom_mark {c : Char} {token : Token} (h : mark? c = some token)
    (rest : List Char) :
    tokensFrom .between (c :: rest) = (tokensFrom .between rest).map (token :: ·) := by
  have mark : step .between c = some ([token], .between) := by
    simp [step, start, h]
  exact tokensFrom_of_step_token mark rest

/-- A line with a member gives the tokens of the member. -/
theorem tokensFrom_line (member : String × String) (rest : List Char) :
    tokensFrom .between (("  " ++ quote member.1 ++ ": " ++ quote member.2).toList ++ rest) =
      (tokensFrom .between rest).map (textTokens member ++ ·) := by
  have spaces : "  ".toList = [' ', ' '] := by simp
  have colon : ": ".toList = [':', ' '] := by simp
  simp only [String.toList_append, spaces, colon, List.append_assoc, List.cons_append,
    List.nil_append]
  rw [tokensFrom_blank rfl, tokensFrom_blank rfl, tokensFrom_quote,
    tokensFrom_mark rfl, tokensFrom_blank rfl,
    tokensFrom_quote]
  cases tokensFrom .between rest <;> rfl

/-- Further lines give, for each one, a comma and the tokens of its member. -/
theorem tokensFrom_lines (members : List (String × String)) (rest : List Char) :
    tokensFrom .between
        (members.flatMap (fun member =>
          ",\n".toList ++ ("  " ++ quote member.1 ++ ": " ++ quote member.2).toList) ++ rest) =
      (tokensFrom .between rest).map
        (members.flatMap (fun member => .comma :: textTokens member) ++ ·) := by
  have comma : ",\n".toList = [',', '\n'] := by simp
  induction members with
  | nil => simp
  | cons member members ih =>
    rw [List.flatMap_cons, List.append_assoc, List.append_assoc, comma, List.cons_append,
      List.singleton_append, tokensFrom_mark rfl,
      tokensFrom_blank rfl, tokensFrom_line, ← comma, ih, Option.map_map, Option.map_map]
    simp [Function.comp_def]

theorem toList_object (first : String × String) (others : List (String × String)) :
    (object ((first :: others).map textMember)).toList =
      '\x7b' :: '\n' :: (("  " ++ quote first.1 ++ ": " ++ quote first.2).toList ++
        (others.flatMap (fun member =>
          ",\n".toList ++ ("  " ++ quote member.1 ++ ": " ++ quote member.2).toList) ++
            ['\n', '\x7d'])) := by
  have opening : "\x7b\n".toList = ['\x7b', '\n'] := by simp
  have closing : "\n\x7d".toList = ['\n', '\x7d'] := by simp
  rw [object, String.toList_append, String.toList_append, String.toList_intercalate, opening,
    closing, List.map_cons, List.map_cons, List.map_cons, intercalate_cons]
  simp only [textMember, List.map_map, List.flatMap_map, Function.comp_def, List.append_assoc,
    List.cons_append, List.nil_append]

/-- The tokens of an object of texts. -/
theorem tokens?_object (first : String × String) (others : List (String × String)) :
    tokens? (object ((first :: others).map textMember)) =
      some (.beginObject :: (textTokens first ++
        (others.flatMap (fun member => .comma :: textTokens member) ++ [.endObject]))) := by
  rw [tokens?, toList_object,
    tokensFrom_mark rfl, tokensFrom_blank rfl,
    tokensFrom_line, tokensFrom_lines, tokensFrom_blank rfl,
    tokensFrom_mark rfl]
  rfl

/-! ### Values -/

namespace Value

/-- A member with a text for its value, as it is read. -/
def ofTextMember (member : String × String) : Option String × Value :=
  (some member.1, .text (some member.2))

/-- The tokens of further members put them before those that are there. -/
theorem foldlM_members (members : List (String × String))
    (seen : List (Option String × Value)) (later : List Token) :
    (members.flatMap (fun member => .comma :: textTokens member) ++ later).foldlM advance
        ([.object seen], .more) =
      later.foldlM advance ([.object ((members.map ofTextMember).reverse ++ seen)], .more) := by
  induction members generalizing seen with
  | nil => rfl
  | cons member members ih =>
    change (members.flatMap (fun member => .comma :: textTokens member) ++ later).foldlM advance
      ([.object (ofTextMember member :: seen)], .more) = _
    rw [ih, List.map_cons, List.reverse_cons, List.append_assoc, List.singleton_append]

/-- An object of texts is read back. -/
theorem ofDocument?_object {members : List (String × String)} (present : members ≠ []) :
    ofDocument? (Json.object (members.map textMember)) =
      some (object (members.map ofTextMember)) := by
  obtain ⟨first, others, rfl⟩ := List.exists_cons_of_ne_nil present
  rw [ofDocument?, tokens?_object, Option.bind_some, ofTokens?]
  change (((others.flatMap (fun member => Token.comma :: textTokens member) ++
    [Token.endObject]).foldlM advance ([.object [ofTextMember first]], .more)) >>= _ :
      Option Value) = _
  rw [foldlM_members]
  change some (Value.object ((others.map ofTextMember).reverse ++ [ofTextMember first]).reverse) = _
  rw [List.reverse_append, List.reverse_reverse, List.reverse_singleton, List.singleton_append,
    List.map_cons]

end Value

end Licensing.Json
