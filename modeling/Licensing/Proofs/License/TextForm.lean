import Licensing.License.TextForm
import Licensing.Proofs.License.WellFormed
import Licensing.Proofs.Lists
import Mathlib.Data.List.Basic

/-!
# The text form of licenses is read back

The text form is cut where it was put together: the fields at their brackets, the names of the
features at the commas between them. So a license is read back from its text form, except for what
the text form leaves out.

## Main definitions

* `TextForm.IsBody` — the texts that a field can hold.
* `License.textPart` — what the text form tells of a license.

## Main results

* `TextForm.fieldsFrom_eq_ok_iff`, `TextForm.splitFields_eq_ok_iff` — the fields of a text are those
  of which it consists.
* `TextForm.splitNames_joinNames`, `TextForm.featureNames_joinNames` — names are cut where they were
  joined.
* `License.WellFormed.ofText_toText` — what is read from the text form of a license.
* `License.text_round_trip` — a license that is made from settings is read back from its text form.
-/

namespace Licensing

namespace TextForm

/-! ### Fields -/

/-- A text that a field can hold: one without brackets. -/
def IsBody (body : List Char) : Prop :=
  ∀ c ∈ body, isBracket c = false

theorem isBracket_eq_false_iff {c : Char} : isBracket c = false ↔ c ≠ '[' ∧ c ≠ ']' := by
  simp [isBracket]

theorem isBody_iff {body : List Char} : IsBody body ↔ '[' ∉ body ∧ ']' ∉ body := by
  simp only [IsBody, isBracket_eq_false_iff, forall_and]
  refine and_congr ?_ ?_
  · exact ⟨fun h mem => h _ mem rfl, fun h c mem eq => h (eq ▸ mem)⟩
  · exact ⟨fun h mem => h _ mem rfl, fun h c mem eq => h (eq ▸ mem)⟩

/-- Some fields in brackets start with a given one if and only if it is the first of them. -/
theorem enclose_append_eq_flatMap_iff {body rest : List Char} {fields : List (List Char)}
    (closed : ']' ∉ body) :
    (enclose body ++ rest = fields.flatMap enclose ∧ ∀ field ∈ fields, IsBody field) ↔
      IsBody body ∧ ∃ others, (rest = others.flatMap enclose ∧ ∀ field ∈ others, IsBody field) ∧
        body :: others = fields := by
  constructor
  · rintro ⟨eq, bodies⟩
    cases fields with
    | nil => cases eq
    | cons first others =>
      obtain ⟨isBody, othersBodies⟩ := List.forall_mem_cons.mp bodies
      have eq : body ++ ']' :: rest = first ++ ']' :: others.flatMap enclose := by
        simpa [enclose] using eq
      obtain ⟨rfl, rfl⟩ := (append_terminator_inj closed (isBody_iff.mp isBody).2).mp eq
      exact ⟨isBody, others, ⟨rfl, othersBodies⟩, rfl⟩
  · rintro ⟨isBody, others, ⟨rfl, bodies⟩, rfl⟩
    exact ⟨List.flatMap_cons.symm, List.forall_mem_cons.mpr ⟨isBody, bodies⟩⟩

/-- What is read already of a field that is open, its opening bracket included. -/
def pending : Option (List Char) → List Char
  | none => []
  | some body => '[' :: body.reverse

/-- Fields are read if and only if the text, together with what is read already of an open field,
consists of them, each between brackets and without brackets inside. -/
theorem fieldsFrom_eq_ok_iff {number : Nat} {opened : Option (List Char)} {text : List Char}
    {fields : List (List Char)} (closed : ∀ body ∈ opened, ']' ∉ body) :
    fieldsFrom number opened text = .ok fields ↔
      pending opened ++ text = fields.flatMap enclose ∧ ∀ field ∈ fields, IsBody field := by
  -- By induction on what is left of the text. Of the text before it, `pending` keeps what matters.
  induction text generalizing number opened fields with
  | nil =>
    cases opened with
    | none => cases fields <;> simp [fieldsFrom, pending, enclose]
    | some body =>
      have closed : ']' ∉ pending (some body) := by
        simpa [pending] using closed body rfl
      simp only [fieldsFrom, List.append_nil, reduceCtorEq, false_iff, not_and]
      rintro eq -
      cases fields with
      | nil => cases eq
      | cons first others => exact closed (by simp [eq, enclose])
  | cons c rest ih =>
    cases opened with
    | none =>
      by_cases opening : c = '['
      · subst opening
        rw [fieldsFrom, if_pos rfl, ih (by simp)]
        rfl
      · rw [fieldsFrom, if_neg opening]
        cases fields <;> simp [pending, enclose, opening]
    | some body =>
      have closed : ']' ∉ body.reverse := by
        simpa using closed body rfl
      by_cases closing : c = ']'
      · subst closing
        have cut : pending (some body) ++ ']' :: rest = enclose body.reverse ++ rest := by
          simp [pending, enclose]
        rw [fieldsFrom, if_pos rfl, cut, enclose_append_eq_flatMap_iff closed, isBody_iff]
        by_cases nested : '[' ∈ body
        · simp [nested]
        · have plain : '[' ∉ body.reverse := by simpa using nested
          have contains : body.contains '[' = false := by simpa using nested
          have read (others : List (List Char)) : fieldsFrom (number + 1) none rest = .ok others ↔
              rest = others.flatMap enclose ∧ ∀ field ∈ others, IsBody field :=
            ih (by simp)
          simp only [contains, Bool.false_eq_true, if_false, bind_eq_ok_iff, pure_eq_ok_iff, read,
            plain, closed, not_false_eq_true, true_and]
      · rw [fieldsFrom, if_neg closing, ih (by simpa [Ne.symm closing] using closed)]
        simp [pending]

/-- The fields of a text are read if and only if the text consists of them, each between brackets
and without brackets inside. -/
theorem splitFields_eq_ok_iff {text : List Char} {fields : List (List Char)} :
    splitFields text = .ok fields ↔
      text = fields.flatMap enclose ∧ ∀ field ∈ fields, IsBody field :=
  fieldsFrom_eq_ok_iff (by simp)

/-! ### Names -/

/-- A piece without commas becomes part of the first name of what follows it. -/
theorem splitNames_append {piece rest first : List Char} {others : List (List Char)}
    (free : ',' ∉ piece) (h : splitNames rest = first :: others) :
    splitNames (piece ++ rest) = (piece ++ first) :: others := by
  induction piece with
  | nil => exact h
  | cons c piece ih =>
    have apart : c ≠ ',' := fun eq => free (eq ▸ List.mem_cons_self)
    have ih := ih fun mem => free (.tail _ mem)
    rw [List.cons_append, splitNames]
    · rw [ih]
      rfl
    · rintro _ rfl
      exact absurd rfl apart

theorem joinNames_cons_cons (name next : List Char) (names : List (List Char)) :
    joinNames (name :: next :: names) = name ++ ',' :: ' ' :: joinNames (next :: names) := by
  rw [joinNames, List.intercalate_cons_cons, List.append_assoc]
  rfl

/-- Names without commas are cut where they were joined. -/
theorem splitNames_joinNames {names : List (List Char)} (present : names ≠ [])
    (free : ∀ name ∈ names, ',' ∉ name) : splitNames (joinNames names) = names := by
  induction names with
  | nil => exact absurd rfl present
  | cons name names ih =>
    have first := free name List.mem_cons_self
    cases names with
    | nil =>
      have cut : splitNames (name ++ []) = [name ++ []] := splitNames_append first rfl
      simpa [joinNames] using cut
    | cons next names =>
      have others := ih (by simp) fun other mem => free other (.tail _ mem)
      have separated : splitNames (',' :: ' ' :: joinNames (next :: names)) =
          [] :: next :: names := by
        rw [splitNames, others]
      rw [joinNames_cons_cons, splitNames_append first separated, List.append_nil]

/-- Joined names have no brackets if none of the names has. -/
theorem isBody_joinNames {names : List (List Char)} (bodies : ∀ name ∈ names, IsBody name) :
    IsBody (joinNames names) := by
  induction names with
  | nil =>
    rintro c ⟨⟩
  | cons name names ih =>
    cases names with
    | nil => simpa [joinNames] using bodies
    | cons next names =>
      have others := ih fun other mem => bodies other (.tail _ mem)
      rw [joinNames_cons_cons]
      refine List.forall_mem_append.mpr ⟨bodies name List.mem_cons_self, ?_⟩
      exact List.forall_mem_cons.mpr ⟨rfl, List.forall_mem_cons.mpr ⟨rfl, others⟩⟩

/-- The names of features are read back from the last field if none is empty or has a comma. -/
theorem featureNames_joinNames {names : List String} (present : "" ∉ names)
    (free : ∀ name ∈ names, ',' ∉ name.toList) :
    featureNames (joinNames (names.map String.toList)) = names := by
  cases names with
  | nil => rfl
  | cons name others =>
    have cut : splitNames (joinNames ((name :: others).map String.toList)) =
        (name :: others).map String.toList :=
      splitNames_joinNames (by simp) (by simpa using free)
    -- An empty field stands for no names at all, so this one must not be empty.
    have written : joinNames ((name :: others).map String.toList) ≠ [] := by
      intro empty
      rw [empty] at cut
      have first : [] = name.toList := (List.cons.inj cut).1
      exact present (by simp [String.toList_eq_nil_iff.mp first.symm])
    rw [featureNames, List.isEmpty_eq_false_iff.mpr written, if_neg Bool.false_ne_true, cut,
      List.map_map]
    simp [Function.comp_def]

/-! ### Numbers -/

theorem isBody_ofNat (n : Nat) : IsBody (Numeral.ofNat n).toList := by
  intro c mem
  rw [Numeral.ofNat, String.toList_ofList] at mem
  have digit : c.isDigit := Nat.isDigit_of_mem_toDigits (by decide) (by decide) mem
  refine isBracket_eq_false_iff.mpr ⟨?_, ?_⟩ <;> rintro rfl <;> exact absurd digit (by decide)

theorem isBody_ofInt (n : Int) : IsBody (Numeral.ofInt n).toList := by
  have sign : IsBody "-".toList := List.forall_mem_singleton.mpr rfl
  rw [Numeral.ofInt]
  split_ifs
  · rw [String.toList_append]
    exact List.forall_mem_append.mpr ⟨sign, isBody_ofNat _⟩
  · exact isBody_ofNat _

theorem readNumber_eq_ok_iff {α : Type} {read : String → Option α} {field : Field}
    {body : List Char} {n : α} :
    readNumber read field body = .ok n ↔ read (String.ofList body) = some n := by
  unfold readNumber
  cases read (String.ofList body) <;> simp

end TextForm

namespace License

open TextForm

/-- What the text form tells of a license: neither its key nor when its features end. -/
def textPart (l : License) : License :=
  { l with productKey := "", features := l.features.map fun f => .lasting f.name }

/-- An empty key at the start settles nothing. -/
theorem build_productKey_empty (settings : List Setting) :
    build (.productKey "" :: settings) = build settings :=
  rfl

namespace WellFormed

variable {l : License}

theorem textPart (h : l.WellFormed) : l.textPart.WellFormed := by
  refine { h with features := fun f mem => ?_, distinct := ?_ }
  · obtain ⟨g, hg, rfl⟩ := List.mem_map.mp mem
    exact ⟨(h.features g hg).notBlank, (h.features g hg).notReserved, .inl rfl⟩
  · simpa [License.textPart, Function.comp_def, Feature.lasting] using h.distinct

/-- No field of the text form has brackets inside. -/
theorem isBody_of_mem_textFields (h : l.WellFormed) : ∀ field ∈ l.textFields, IsBody field := by
  have names : ∀ name ∈ l.features.map (·.name.toList), IsBody name := by
    intro name mem c hc
    obtain ⟨f, hf, rfl⟩ := List.mem_map.mp mem
    have free := (h.features f hf).notReserved c hc
    exact (Bool.or_eq_false_iff.mp free).1
  simp only [textFields, List.forall_mem_cons]
  exact ⟨h.holder.noBracket, h.issuer.noBracket, h.subject.noBracket, isBody_ofInt _,
    isBody_ofInt _, isBody_ofInt _, isBody_ofNat _, isBody_joinNames names, by simp⟩

/-- The text form is cut into the fields that were written. -/
theorem splitFields_toText (h : l.WellFormed) :
    splitFields l.toText.toList = .ok l.textFields := by
  rw [splitFields_eq_ok_iff, toText, String.toList_ofList]
  exact ⟨rfl, h.isBody_of_mem_textFields⟩

/-- The last field is cut into the names of the features. -/
theorem featureNames_eq (h : l.WellFormed) :
    featureNames (joinNames (l.features.map (·.name.toList))) = l.features.map (·.name) := by
  have present : "" ∉ l.features.map (·.name) := by
    intro mem
    obtain ⟨f, hf, empty⟩ := List.mem_map.mp mem
    have notBlank := (h.features f hf).notBlank
    rw [empty] at notBlank
    exact absurd notBlank (by decide)
  have free : ∀ name ∈ l.features.map (·.name), ',' ∉ name.toList := by
    intro name mem comma
    obtain ⟨f, hf, rfl⟩ := List.mem_map.mp mem
    exact absurd ((h.features f hf).notReserved _ comma) (by decide)
  simpa [Function.comp_def] using featureNames_joinNames present free

/-- The text form of a well-formed license is read as what it tells of the license. -/
theorem ofText_toText (h : l.WellFormed) : ofText l.toText = .ok l.textPart := by
  have made : build l.textPart.allSettings = .ok l.textPart :=
    build_allSettings_eq_ok_iff.mpr ⟨h.textPart, rfl⟩
  rw [ofText, h.splitFields_toText]
  change ofTextFields l.textFields = .ok l.textPart
  simp only [ofTextFields, textFields, bind_eq_ok_iff, readNumber_eq_ok_iff, String.ofList_toList,
    Numeral.int64?_ofInt, Numeral.uint32?_ofNat, Option.some.injEq, exists_eq_left',
    ofSettings_eq_ok_iff, h.featureNames_eq]
  rw [← build_productKey_empty, ← made]
  simp [allSettings, settings, License.textPart, Function.comp_def]

end WellFormed

/-- The bytes of a text are read as the text is. -/
theorem ofTextBytes_ofText (text : String) : ofTextBytes (Bytes.ofText text) = ofText text := by
  rw [ofTextBytes, Utf8.decode_ofText]

theorem ofTextBytes_toTextBytes (l : License) : ofTextBytes l.toTextBytes = ofText l.toText :=
  ofTextBytes_ofText l.toText

/-- **Text round trip.** The text form of a license that is made from settings is cut into the
fields and the names that were written. It is read back, also from its bytes, as a license with the
same values, except that its key is empty and that its features, which have the same names in the
same order, never expire. -/
theorem text_round_trip {settings : List Setting} {l : License} (made : build settings = .ok l) :
    splitFields l.toText.toList = .ok l.textFields ∧
      featureNames (joinNames (l.features.map (·.name.toList))) = l.features.map (·.name) ∧
      ∃ found, ofText l.toText = .ok found ∧ ofTextBytes l.toTextBytes = .ok found ∧
        found = { l with productKey := "", features := found.features } ∧
        found.features.map (·.name) = l.features.map (·.name) ∧
        ∀ f ∈ found.features, f.neverExpires = true := by
  have h := wellFormed_of_build made
  refine ⟨h.splitFields_toText, h.featureNames_eq, l.textPart, h.ofText_toText, ?_, rfl, ?_, ?_⟩
  · rw [ofTextBytes_toTextBytes, h.ofText_toText]
  · simp [textPart, Function.comp_def, Feature.lasting]
  · simp [textPart]

/-- The text round trip of a license with a key and with a feature that ends. -/
theorem text_round_trip_specimen :
    build specimen.allSettings = .ok specimen ∧
      ∃ found, ofText ("[Ada][Acme Ltd][Édition][1500000000000][1600000000000][2000000000000][5]" ++
          "[export, print]") = .ok found ∧
        found.productKey = "" ∧ found.features.map (·.name) = ["export", "print"] ∧
        ∀ f ∈ found.features, f.neverExpires = true := by
  obtain ⟨-, -, found, read, -, eq, names, lasting⟩ := text_round_trip build_specimen
  exact ⟨build_specimen, found, read, by rw [eq], names, lasting⟩

end License

end Licensing
