import Licensing.Proofs.License.TextForm
import Licensing.Proofs.Text.Numeral

/-!
# The grammar of the text form

The texts that are read as licenses are those of a grammar: eight groups in brackets, the first
three of them not blank, then three dates and a number of seats as numerals, and last the names of
the features, separated by a comma and a space. The grammar leaves open how the numbers are spelled,
and nothing else. Any other text is refused, and so are all bytes that are not a text.

## Main definitions

* `TextForm.DateNumeral`, `TextForm.SeatsNumeral` — the numerals of the grammar.
* `TextForm.Sentence`, `TextForm.Sentence.text`, `TextForm.Sentence.license` — a text of the grammar
  by its parts, and the license that it stands for.
* `TextForm.IsFault` — the ways in which a text is refused.

## Main results

* `TextForm.joinNames_featureNames` — the names of the last field, joined again, are the field.
* `TextForm.ofTextFields_eq_ok_iff` — the fields that are read are the bodies of a text of the
  grammar.
* `License.isFault_of_ofText` — how other texts are refused.
* `License.ofText_iff_sentence` — the texts that are read as licenses, and what becomes of others.
-/

namespace Licensing

namespace TextForm

/-! ### Numerals -/

/-- A date as it is spelled: a number from zero up to the greatest one of 64 bits with a sign. -/
structure DateNumeral where
  spelling : List Char
  value : Int
  signed : Numeral.Signed spelling value
  nonneg : 0 ≤ value
  lt : value < 0x8000000000000000

/-- The date that a numeral stands for. -/
def DateNumeral.date (d : DateNumeral) : Int64 :=
  Int64.ofInt d.value

/-- A number of seats as it is spelled: a number up to the greatest one of 32 bits. -/
structure SeatsNumeral where
  spelling : List Char
  value : Nat
  unsigned : Numeral.Unsigned spelling value
  lt : value < 0x100000000

/-- The number of seats that a numeral stands for. -/
def SeatsNumeral.seats (n : SeatsNumeral) : UInt32 :=
  UInt32.ofNat n.value

theorem DateNumeral.toInt_date (d : DateNumeral) : d.date.toInt = d.value := by
  have nonneg := d.nonneg
  have lt := d.lt
  exact Int64.toInt_ofInt_of_le (by omega) (by omega)

theorem DateNumeral.date_nonneg (d : DateNumeral) : 0 ≤ d.date := by
  rw [Int64.le_iff_toInt_le, d.toInt_date]
  exact d.nonneg

theorem SeatsNumeral.toNat_seats (n : SeatsNumeral) : n.seats.toNat = n.value :=
  UInt32.toNat_ofNat_of_lt' n.lt

/-- A date that is read and not negative is the one of a numeral. -/
theorem readNumber_date_iff {field : Field} {body : List Char} {date : Int64} :
    (readNumber Numeral.int64? field body = .ok date ∧ 0 ≤ date) ↔
      ∃ d : DateNumeral, d.spelling = body ∧ d.date = date := by
  rw [readNumber_eq_ok_iff, Numeral.int64?_eq_some_iff, String.toList_ofList,
    Int64.le_iff_toInt_le]
  constructor
  · rintro ⟨signed, nonneg⟩
    exact ⟨⟨body, date.toInt, signed, nonneg, date.toInt_lt⟩, rfl, Int64.ofInt_toInt date⟩
  · rintro ⟨d, rfl, rfl⟩
    rw [d.toInt_date]
    exact ⟨d.signed, d.nonneg⟩

/-- A number of seats that is read is the one of a numeral. -/
theorem readNumber_seats_iff {field : Field} {body : List Char} {seats : UInt32} :
    readNumber Numeral.uint32? field body = .ok seats ↔
      ∃ n : SeatsNumeral, n.spelling = body ∧ n.seats = seats := by
  rw [readNumber_eq_ok_iff, Numeral.uint32?_eq_some_iff, String.toList_ofList]
  constructor
  · intro unsigned
    exact ⟨⟨body, seats.toNat, unsigned, seats.toNat_lt⟩, rfl, UInt32.ofNat_toNat⟩
  · rintro ⟨n, rfl, rfl⟩
    rw [n.toNat_seats]
    exact n.unsigned

theorem isBody_of_digits {digits : List Char} {n : Nat} (h : Numeral.Digits digits n) :
    IsBody digits := by
  intro c mem
  have digit := h.isDigit c mem
  refine isBracket_eq_false_iff.mpr ⟨?_, ?_⟩ <;> rintro rfl <;> exact absurd digit (by decide)

theorem DateNumeral.isBody (d : DateNumeral) : IsBody d.spelling := by
  obtain ⟨spelling, value, signed, -, -⟩ := d
  cases signed with
  | plain h => exact isBody_of_digits h
  | plus h | minus h => exact List.forall_mem_cons.mpr ⟨rfl, isBody_of_digits h⟩

theorem SeatsNumeral.isBody (n : SeatsNumeral) : IsBody n.spelling := by
  obtain ⟨spelling, value, unsigned, -⟩ := n
  cases unsigned with
  | plain h => exact isBody_of_digits h
  | plus h => exact List.forall_mem_cons.mpr ⟨rfl, isBody_of_digits h⟩

/-! ### Names -/

theorem splitNames_ne_nil (body : List Char) : splitNames body ≠ [] := by
  fun_induction splitNames body <;> simp

theorem joinNames_cons_head (c : Char) (first : List Char) (others : List (List Char)) :
    joinNames ((c :: first) :: others) = c :: joinNames (first :: others) := by
  cases others with
  | nil => simp [joinNames]
  | cons next others => rw [joinNames_cons_cons, joinNames_cons_cons, List.cons_append]

/-- The pieces between the commas, joined again, are the text that was cut. -/
theorem joinNames_splitNames (body : List Char) : joinNames (splitNames body) = body := by
  fun_induction splitNames body with
  | case1 => rfl
  | case2 rest ih =>
    obtain ⟨first, others, cut⟩ := List.exists_cons_of_ne_nil (splitNames_ne_nil rest)
    rw [cut, joinNames_cons_cons, ← cut, ih]
    rfl
  | case3 c rest _ cut => exact absurd cut (splitNames_ne_nil rest)
  | case4 c rest _ first others cut ih =>
    rw [cut] at ih
    rw [joinNames_cons_head, ih]

/-- The names of the last field, joined again, are the field. -/
theorem joinNames_featureNames (body : List Char) :
    joinNames ((featureNames body).map String.toList) = body := by
  rw [featureNames]
  split
  · next empty => simp [joinNames, List.isEmpty_iff.mp empty]
  · rw [List.map_map]
    simpa [Function.comp_def] using joinNames_splitNames body

/-! ### Sentences -/

/-- A text of the grammar, by its parts. -/
structure Sentence where
  holder : String
  issuer : String
  subject : String
  issueDate : DateNumeral
  goodAfterDate : DateNumeral
  goodBeforeDate : DateNumeral
  seats : SeatsNumeral
  /-- The names of the features, in order. -/
  names : List String
  isPrincipal_holder : IsPrincipal holder
  isPrincipal_issuer : IsPrincipal issuer
  isPrincipal_subject : IsPrincipal subject
  notBlank : ∀ name ∈ names, Text.isBlank name = false
  notReserved : ∀ name ∈ names, ∀ c ∈ name.toList, isReserved c = false
  distinct : names.Nodup

namespace Sentence

/-- The bodies of the eight groups. -/
def bodies (s : Sentence) : List (List Char) :=
  [s.holder.toList, s.issuer.toList, s.subject.toList, s.issueDate.spelling,
   s.goodAfterDate.spelling, s.goodBeforeDate.spelling, s.seats.spelling,
   joinNames (s.names.map String.toList)]

/-- The text itself: eight groups in brackets, one after the other. -/
def text (s : Sentence) : String :=
  String.ofList (s.bodies.flatMap enclose)

/-- The license that the text stands for. It has no key, and its features never expire. -/
def license (s : Sentence) : License :=
  ⟨"", s.holder, s.issuer, s.subject, s.issueDate.date, s.goodAfterDate.date,
    s.goodBeforeDate.date, s.seats.seats, s.names.map .lasting⟩

variable (s : Sentence)

/-- No body has brackets inside. -/
theorem isBody_of_mem_bodies : ∀ body ∈ s.bodies, IsBody body := by
  have names : ∀ name ∈ s.names.map String.toList, IsBody name := by
    intro name mem c hc
    obtain ⟨name, hname, rfl⟩ := List.mem_map.mp mem
    exact (Bool.or_eq_false_iff.mp (s.notReserved name hname c hc)).1
  simp only [bodies, List.forall_mem_cons]
  exact ⟨s.isPrincipal_holder.noBracket, s.isPrincipal_issuer.noBracket,
    s.isPrincipal_subject.noBracket, s.issueDate.isBody, s.goodAfterDate.isBody,
    s.goodBeforeDate.isBody, s.seats.isBody, isBody_joinNames names, by simp⟩

theorem featureNames_eq : featureNames (joinNames (s.names.map String.toList)) = s.names := by
  refine featureNames_joinNames (fun mem => ?_) fun name mem comma => ?_
  · exact absurd (s.notBlank _ mem) (by decide)
  · exact absurd (s.notReserved name mem _ comma) (by decide)

theorem wellFormed_license : s.license.WellFormed where
  holder := s.isPrincipal_holder
  issuer := s.isPrincipal_issuer
  subject := s.isPrincipal_subject
  issueDate := s.issueDate.date_nonneg
  goodAfterDate := s.goodAfterDate.date_nonneg
  goodBeforeDate := s.goodBeforeDate.date_nonneg
  features f mem := by
    obtain ⟨name, hname, rfl⟩ := List.mem_map.mp mem
    exact ⟨s.notBlank name hname, s.notReserved name hname, .inl rfl⟩
  distinct := by
    simpa [license, Function.comp_def, Feature.lasting] using s.distinct

/-- The settings that the parts of a text give are those of a license without a key. -/
theorem build_parts (holder issuer subject : String)
    (issueDate goodAfterDate goodBeforeDate : Int64) (seats : UInt32) (names : List String) :
    License.build
        ([.holder holder, .issuer issuer, .subject subject, .issueDate issueDate,
          .goodAfterDate goodAfterDate, .goodBeforeDate goodBeforeDate, .seats seats] ++
          names.map fun name => .feature (.lasting name)) =
      License.build (License.allSettings ⟨"", holder, issuer, subject, issueDate, goodAfterDate,
        goodBeforeDate, seats, names.map .lasting⟩) := by
  rw [← License.build_productKey_empty]
  simp [License.allSettings, License.settings, Function.comp_def]

/-- The bodies are read as the license. -/
theorem ofTextFields_bodies : License.ofTextFields s.bodies = .ok s.license := by
  have date (d : DateNumeral) (field : Field) :
      readNumber Numeral.int64? field d.spelling = .ok d.date :=
    (readNumber_date_iff.mpr ⟨d, rfl, rfl⟩).1
  have seats : readNumber Numeral.uint32? .seats s.seats.spelling = .ok s.seats.seats :=
    readNumber_seats_iff.mpr ⟨s.seats, rfl, rfl⟩
  simp only [License.ofTextFields, bodies, date, seats, ok_bind, s.featureNames_eq,
    String.ofList_toList, License.ofSettings_eq_ok_iff]
  rw [build_parts]
  exact License.build_allSettings_eq_ok_iff.mpr ⟨s.wellFormed_license, rfl⟩

end Sentence

/-- The fields that are read as a license are the bodies of a text of the grammar. -/
theorem ofTextFields_eq_ok_iff {fields : List (List Char)} {l : License} :
    License.ofTextFields fields = .ok l ↔ ∃ s : Sentence, s.bodies = fields ∧ s.license = l := by
  constructor
  · intro read
    unfold License.ofTextFields at read
    split at read
    · next holder issuer subject issueDate goodAfterDate goodBeforeDate seats features =>
      simp only [bind_eq_ok_iff] at read
      obtain ⟨issue, readIssue, start, readStart, stop, readStop, count, readCount, made⟩ := read
      rw [License.ofSettings_eq_ok_iff, Sentence.build_parts] at made
      obtain ⟨wellFormed, rfl⟩ := License.build_allSettings_eq_ok_iff.mp made
      obtain ⟨issueDate, rfl, rfl⟩ := readNumber_date_iff.mp ⟨readIssue, wellFormed.issueDate⟩
      obtain ⟨goodAfter, rfl, rfl⟩ := readNumber_date_iff.mp ⟨readStart, wellFormed.goodAfterDate⟩
      obtain ⟨goodBefore, rfl, rfl⟩ := readNumber_date_iff.mp ⟨readStop, wellFormed.goodBeforeDate⟩
      obtain ⟨seats, rfl, rfl⟩ := readNumber_seats_iff.mp readCount
      have ofName (name : String) (mem : name ∈ featureNames features) :
          (Feature.lasting name).WellFormed :=
        wellFormed.features _ (List.mem_map.mpr ⟨name, mem, rfl⟩)
      have distinct : (featureNames features).Nodup := by
        simpa [Function.comp_def, Feature.lasting] using wellFormed.distinct
      refine ⟨⟨String.ofList holder, String.ofList issuer, String.ofList subject, issueDate,
        goodAfter, goodBefore, seats, featureNames features, wellFormed.holder, wellFormed.issuer,
        wellFormed.subject, fun name mem => (ofName name mem).notBlank,
        fun name mem => (ofName name mem).notReserved, distinct⟩, ?_, rfl⟩
      simp only [Sentence.bodies, String.toList_ofList, joinNames_featureNames]
    · cases read
  · rintro ⟨s, rfl, rfl⟩
    exact s.ofTextFields_bodies

/-! ### Texts that are refused -/

/-- The ways in which a text is refused. -/
inductive IsFault : FormatFault → Prop
  | unopened (field : Nat) : IsFault (.unopened field)
  | unclosed (field : Nat) : IsFault (.unclosed field)
  | nested (field : Nat) : IsFault (.nested field)
  | fieldCount {count : Nat} (other : count ≠ 8) : IsFault (.fieldCount count)
  | number (field : Field) (text : String) : IsFault (.number field text)
  | rejected (rejection : Rejection) : IsFault (.rejected rejection)

theorem isFault_of_fieldsFrom {number : Nat} {opened : Option (List Char)} {text : List Char}
    {fault : FormatFault} (h : fieldsFrom number opened text = .error fault) : IsFault fault := by
  fun_induction fieldsFrom number opened text with
  | case1 => cases h
  | case2 number rest ih => exact ih h
  | case3 number c rest other =>
    cases h
    exact .unopened number
  | case4 number body =>
    cases h
    exact .unclosed number
  | case5 number body rest nested =>
    cases h
    exact .nested number
  | case6 number body rest plain ih =>
    obtain failed | ⟨fields, -, impossible⟩ := bind_eq_error_iff.mp h
    · exact ih failed
    · cases impossible
  | case7 number body c rest other ih => exact ih h

theorem isFault_of_readNumber {α : Type} {read : String → Option α} {field : Field}
    {body : List Char} {fault : FormatFault} (h : readNumber read field body = .error fault) :
    IsFault fault := by
  unfold readNumber at h
  split at h
  · cases h
  · cases h
    exact .number field _

theorem isFault_of_ofTextFields {fields : List (List Char)} {fault : FormatFault}
    (h : License.ofTextFields fields = .error fault) : IsFault fault := by
  unfold License.ofTextFields at h
  split at h
  · simp only [bind_eq_error_iff] at h
    obtain failed | ⟨_, -, failed | ⟨_, -, failed | ⟨_, -, failed | ⟨_, -, failed⟩⟩⟩⟩ := h
    · exact isFault_of_readNumber failed
    · exact isFault_of_readNumber failed
    · exact isFault_of_readNumber failed
    · exact isFault_of_readNumber failed
    · unfold License.ofSettings at failed
      split at failed
      · cases failed
      · cases failed
        exact .rejected _
  · next other =>
    cases h
    refine .fieldCount fun eight => ?_
    match fields, eight with
    | [_, _, _, _, _, _, _, _], _ => exact other _ _ _ _ _ _ _ _ rfl

end TextForm

namespace License

open TextForm

/-- A text is read as a license if and only if it is one of the grammar and stands for it. -/
theorem ofText_eq_ok_iff {text : String} {l : License} :
    ofText text = .ok l ↔ ∃ s : Sentence, s.text = text ∧ s.license = l := by
  simp only [ofText, bind_eq_ok_iff, splitFields_eq_ok_iff, ofTextFields_eq_ok_iff]
  constructor
  · rintro ⟨_, ⟨groups, -⟩, s, rfl, rfl⟩
    exact ⟨s, by rw [Sentence.text, ← groups, String.ofList_toList], rfl⟩
  · rintro ⟨s, rfl, rfl⟩
    refine ⟨s.bodies, ⟨?_, s.isBody_of_mem_bodies⟩, s, rfl, rfl⟩
    rw [Sentence.text, String.toList_ofList]

/-- A text that is not read as a license is refused as a text. -/
theorem isFault_of_ofText {text : String} {fault : FormatFault} (h : ofText text = .error fault) :
    IsFault fault := by
  obtain failed | ⟨fields, -, failed⟩ := bind_eq_error_iff.mp h
  · exact isFault_of_fieldsFrom failed
  · exact isFault_of_ofTextFields failed

/-- Bytes that are not those of a text are refused as such. -/
theorem ofTextBytes_of_ne_ofText {bytes : Bytes} (h : ∀ text, bytes ≠ Bytes.ofText text) :
    ∃ fault, ofTextBytes bytes = .error (.textUtf8 fault) := by
  unfold ofTextBytes
  split
  · next text decoded => exact absurd (Utf8.eq_ofText_of_decode decoded) (h text)
  · exact ⟨_, rfl⟩

/-- **The grammar of the text form.** A text is read as a license if and only if it is one of the
grammar, and then as the license that it stands for. Any other text is refused, for a reason that
texts can be refused for. The bytes of a text are read as the text is, and all other bytes are
refused as bytes that are no text. -/
theorem ofText_iff_sentence :
    (∀ text l, ofText text = .ok l ↔ ∃ s : Sentence, s.text = text ∧ s.license = l) ∧
      (∀ text, (¬ ∃ s : Sentence, s.text = text) →
        ∃ fault, IsFault fault ∧ ofText text = .error fault) ∧
      (∀ text, ofTextBytes (Bytes.ofText text) = ofText text) ∧
      ∀ bytes, (∀ text, bytes ≠ Bytes.ofText text) →
        ∃ fault, ofTextBytes bytes = .error (.textUtf8 fault) := by
  refine ⟨fun _ _ => ofText_eq_ok_iff, fun text other => ?_, ofTextBytes_ofText,
    fun _ => ofTextBytes_of_ne_ofText⟩
  rcases read : ofText text with fault | l
  · exact ⟨fault, isFault_of_ofText read, rfl⟩
  · obtain ⟨s, spelled, -⟩ := ofText_eq_ok_iff.mp read
    exact absurd ⟨s, spelled⟩ other

/-- A text of the grammar whose numbers are spelled with signs and leading zeros. -/
def specimenSentence : Sentence where
  holder := " Ada "
  issuer := "Acme, Ltd"
  subject := "Édition"
  issueDate := ⟨['+', '5'], 5, .plus ⟨by decide, by simp, rfl⟩, by decide, by decide⟩
  goodAfterDate := ⟨['-', '0'], -0, .minus ⟨by decide, by simp, rfl⟩, by decide, by decide⟩
  goodBeforeDate := ⟨['0', '0', '7'], 7, .plain ⟨by decide, by simp, rfl⟩, by decide, by decide⟩
  seats := ⟨['+', '1'], 1, .plus ⟨by decide, by simp, rfl⟩, by decide⟩
  names := ["export", " print"]
  isPrincipal_holder := ⟨by decide, by simp [isBracket]⟩
  isPrincipal_issuer := ⟨by decide, by simp [isBracket]⟩
  isPrincipal_subject := ⟨by decide, by simp [isBracket]⟩
  notBlank := by decide
  notReserved := by simp [isReserved, isBracket]
  distinct := by decide

/-- The text with signs and leading zeros is read; one in which a comma ends a name is refused, and
so is a byte that starts no character. -/
theorem ofText_iff_sentence_spelled :
    ofText "[ Ada ][Acme, Ltd][Édition][+5][-0][007][+1][export,  print]" =
        .ok ⟨"", " Ada ", "Acme, Ltd", "Édition", 5, 0, 7, 1,
          [.lasting "export", .lasting " print"]⟩ ∧
      (∃ fault, IsFault fault ∧ ofText "[h][i][s][1][2][3][4][a,, b]" = .error fault) ∧
      ∃ fault, ofTextBytes [0xff] = .error (.textUtf8 fault) := by
  obtain ⟨accepts, refuses, -, noText⟩ := ofText_iff_sentence
  refine ⟨(accepts _ _).mpr ⟨specimenSentence, by decide, by decide⟩, refuses _ ?_, noText _ ?_⟩
  · rintro ⟨s, eq⟩
    have read := (accepts _ _).mpr ⟨s, eq, rfl⟩
    have refused : ofText "[h][i][s][1][2][3][4][a,, b]" =
        .error (.rejected ⟨.features, .featureReserved "a,"⟩) := by decide
    rw [refused] at read
    cases read
  · intro text eq
    have decoded := Utf8.decode_ofText text
    rw [← eq] at decoded
    have broken : Utf8.decode [0xff] = .error ⟨0, some 1⟩ := by decide
    rw [broken] at decoded
    cases decoded

end License

end Licensing
