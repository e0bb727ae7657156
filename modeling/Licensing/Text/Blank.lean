/-!
# Blank texts

The characters with the Unicode property `White_Space`, and the texts that hold nothing else.

## Main definitions

* `Text.isSpace` — the character is white space.
* `Text.isBlank` — the text holds white space only.
-/

namespace Licensing.Text

/-- The ranges of the Unicode property `White_Space`. -/
def spaces : List (Nat × Nat) :=
  [(0x09, 0x0d), (0x20, 0x20), (0x85, 0x85), (0xa0, 0xa0), (0x1680, 0x1680), (0x2000, 0x200a),
   (0x2028, 0x2029), (0x202f, 0x202f), (0x205f, 0x205f), (0x3000, 0x3000)]

/-- The character is white space. -/
def isSpace (c : Char) : Bool :=
  spaces.any fun (low, high) => low ≤ c.toNat && c.toNat ≤ high

/-- The text holds white space only. -/
def isBlank (text : String) : Bool :=
  text.toList.all isSpace

/-- Every blank of the ASCII class is white space. -/
theorem isSpace_of_isWhitespace {c : Char} (h : c.isWhitespace) : isSpace c := by
  simp only [Char.isWhitespace, Bool.or_eq_true, decide_eq_true_eq] at h
  rcases h with ((rfl | rfl) | rfl) | rfl <;> decide

end Licensing.Text
