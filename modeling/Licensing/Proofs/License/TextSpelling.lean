import Licensing.Proofs.License.TextGrammar

/-!
# Texts up to the spelling of their numbers

A text that is read as a license and the text form of this license consist of the same groups,
except that the numbers of the text form are spelled canonically. So the spelling of numbers is all
that two texts of one license can differ in.

## Main definitions

* `TextForm.Bodies`, `TextForm.Bodies.AreOf` — the bodies of eight groups, and that a text consists
  of these groups.
* `TextForm.Bodies.Respells` — the same bodies, except for the spelling of numbers.
* `TextForm.Bodies.IsCanonical` — bodies whose numbers are spelled canonically.

## Main results

* `TextForm.Bodies.Respells.eq` — canonical bodies are determined by what they spell.
* `TextForm.Sentence.respells_written` — what is written of a license has the bodies that it was
  read from, with the numbers spelled canonically.
* `License.rewritten_up_to_spelling` — what becomes of a text that is read and written again, and
  which texts are read as the same license.
-/

namespace Licensing

namespace TextForm

/-- The bodies of eight groups. -/
structure Bodies where
  holder : List Char
  issuer : List Char
  subject : List Char
  issueDate : List Char
  goodAfterDate : List Char
  goodBeforeDate : List Char
  seats : List Char
  features : List Char

namespace Bodies

/-- The bodies in the order of their groups. -/
def toList (b : Bodies) : List (List Char) :=
  [b.holder, b.issuer, b.subject, b.issueDate, b.goodAfterDate, b.goodBeforeDate, b.seats,
    b.features]

/-- The text consists of eight groups in brackets that have these bodies. -/
structure AreOf (b : Bodies) (text : String) : Prop where
  text_eq : text = String.ofList (b.toList.flatMap enclose)
  isBody : ∀ body ∈ b.toList, IsBody body

/-- All four numbers are spelled canonically. -/
def IsCanonical (b : Bodies) : Prop :=
  ∀ numeral ∈ [b.issueDate, b.goodAfterDate, b.goodBeforeDate, b.seats],
    Numeral.IsCanonical numeral

/-- The same bodies, except that the same four numbers may be spelled in another way. -/
structure Respells (a b : Bodies) : Prop where
  holder : a.holder = b.holder
  issuer : a.issuer = b.issuer
  subject : a.subject = b.subject
  issueDate : Numeral.SameValue a.issueDate b.issueDate
  goodAfterDate : Numeral.SameValue a.goodAfterDate b.goodAfterDate
  goodBeforeDate : Numeral.SameValue a.goodBeforeDate b.goodBeforeDate
  seats : Numeral.SameValue a.seats b.seats
  features : a.features = b.features

variable {a b c : Bodies} {text : String}

theorem areOf_iff : b.AreOf text ↔ splitFields text.toList = .ok b.toList := by
  have chars : text = String.ofList (b.toList.flatMap enclose) ↔
      text.toList = b.toList.flatMap enclose := by
    rw [← String.toList_inj, String.toList_ofList]
  rw [splitFields_eq_ok_iff, ← chars]
  exact ⟨fun h => ⟨h.text_eq, h.isBody⟩, fun h => ⟨h.1, h.2⟩⟩

theorem toList_inj : a.toList = b.toList ↔ a = b := by
  cases a
  cases b
  simp [toList]

/-- A text consists of the groups with these bodies in one way only. -/
theorem AreOf.unique (ha : a.AreOf text) (hb : b.AreOf text) : a = b := by
  rw [areOf_iff] at ha hb
  exact toList_inj.mp (Except.ok.inj (ha.symm.trans hb))

namespace Respells

theorem symm (h : a.Respells b) : b.Respells a :=
  ⟨h.holder.symm, h.issuer.symm, h.subject.symm, h.issueDate.symm, h.goodAfterDate.symm,
    h.goodBeforeDate.symm, h.seats.symm, h.features.symm⟩

theorem trans (hab : a.Respells b) (hbc : b.Respells c) : a.Respells c :=
  ⟨hab.holder.trans hbc.holder, hab.issuer.trans hbc.issuer, hab.subject.trans hbc.subject,
    hab.issueDate.trans hbc.issueDate, hab.goodAfterDate.trans hbc.goodAfterDate,
    hab.goodBeforeDate.trans hbc.goodBeforeDate, hab.seats.trans hbc.seats,
    hab.features.trans hbc.features⟩

/-- Canonical bodies are determined by what they spell. -/
theorem eq (h : a.Respells b) (ha : a.IsCanonical) (hb : b.IsCanonical) : a = b := by
  simp only [IsCanonical, List.forall_mem_cons] at ha hb
  obtain ⟨issue, after, before, seats, -⟩ := ha
  obtain ⟨issue', after', before', seats', -⟩ := hb
  have issueDate := issue.eq_of_sameValue issue' h.issueDate
  have goodAfterDate := after.eq_of_sameValue after' h.goodAfterDate
  have goodBeforeDate := before.eq_of_sameValue before' h.goodBeforeDate
  have seats := seats.eq_of_sameValue seats' h.seats
  rw [← toList_inj, toList, toList, h.holder, h.issuer, h.subject, issueDate, goodAfterDate,
    goodBeforeDate, seats, h.features]

end Respells

end Bodies

end TextForm

namespace License

open TextForm

/-- The bodies of the text form. -/
def textBodies (l : License) : Bodies where
  holder := l.holder.toList
  issuer := l.issuer.toList
  subject := l.subject.toList
  issueDate := (Numeral.ofInt l.issueDate.toInt).toList
  goodAfterDate := (Numeral.ofInt l.goodAfterDate.toInt).toList
  goodBeforeDate := (Numeral.ofInt l.goodBeforeDate.toInt).toList
  seats := (Numeral.ofNat l.seats.toNat).toList
  features := joinNames (l.features.map (·.name.toList))

namespace WellFormed

variable {l : License}

theorem textBodies_areOf (h : l.WellFormed) : l.textBodies.AreOf l.toText :=
  ⟨rfl, h.isBody_of_mem_textFields⟩

/-- The text form of a well-formed license spells its numbers canonically. -/
theorem isCanonical_textBodies (h : l.WellFormed) : l.textBodies.IsCanonical := by
  have date {d : Int64} (nonneg : 0 ≤ d) : Numeral.IsCanonical (Numeral.ofInt d.toInt).toList :=
    Numeral.isCanonical_ofInt (Int64.le_iff_toInt_le.mp nonneg)
  simp only [Bodies.IsCanonical, textBodies, List.forall_mem_cons]
  exact ⟨date h.issueDate, date h.goodAfterDate, date h.goodBeforeDate,
    Numeral.isCanonical_ofNat _, by simp⟩

end WellFormed

end License

namespace TextForm

theorem DateNumeral.sameValue_written (d : DateNumeral) :
    Numeral.SameValue (Numeral.ofInt d.date.toInt).toList d.spelling := by
  rw [d.toInt_date]
  exact ⟨d.value, Numeral.signed_ofInt _, d.signed⟩

theorem SeatsNumeral.sameValue_written (n : SeatsNumeral) :
    Numeral.SameValue (Numeral.ofNat n.seats.toNat).toList n.spelling := by
  rw [n.toNat_seats]
  exact ⟨n.value, Numeral.signed_ofNat _, n.unsigned.signed⟩

namespace Sentence

variable (s : Sentence)

/-- The bodies of a text of the grammar, by their fields. -/
def textBodies : Bodies where
  holder := s.holder.toList
  issuer := s.issuer.toList
  subject := s.subject.toList
  issueDate := s.issueDate.spelling
  goodAfterDate := s.goodAfterDate.spelling
  goodBeforeDate := s.goodBeforeDate.spelling
  seats := s.seats.spelling
  features := joinNames (s.names.map String.toList)

theorem textBodies_areOf : s.textBodies.AreOf s.text :=
  ⟨rfl, s.isBody_of_mem_bodies⟩

/-- What is written of a license has the bodies that it was read from, with the numbers spelled
canonically. -/
theorem respells_written : s.license.textBodies.Respells s.textBodies where
  holder := rfl
  issuer := rfl
  subject := rfl
  issueDate := s.issueDate.sameValue_written
  goodAfterDate := s.goodAfterDate.sameValue_written
  goodBeforeDate := s.goodBeforeDate.sameValue_written
  seats := s.seats.sameValue_written
  features := by
    simp [License.textBodies, textBodies, license, Function.comp_def, Feature.lasting]

theorem ofText_toText_license : License.ofText s.license.toText = .ok s.license := by
  rw [s.wellFormed_license.ofText_toText]
  simp [License.textPart, license, Function.comp_def, Feature.lasting]

end Sentence

end TextForm

namespace License

open TextForm

variable {text : String} {l : License}

/-- A text that is read as a license consists of eight groups, which the text form of the license
respells canonically. -/
theorem exists_bodies_of_ofText (read : ofText text = .ok l) :
    l.WellFormed ∧ ofText l.toText = .ok l ∧
      ∃ given : Bodies, given.AreOf text ∧ l.textBodies.Respells given := by
  obtain ⟨s, rfl, rfl⟩ := ofText_eq_ok_iff.mp read
  exact ⟨s.wellFormed_license, s.ofText_toText_license, s.textBodies, s.textBodies_areOf,
    s.respells_written⟩

/-- Licenses that are read from texts are determined by the bodies of their text forms. -/
theorem eq_of_textBodies_eq {text' : String} {l' : License} (read : ofText text = .ok l)
    (read' : ofText text' = .ok l') (same : l.textBodies = l'.textBodies) : l = l' := by
  obtain ⟨wellFormed, again, -⟩ := exists_bodies_of_ofText read
  obtain ⟨wellFormed', again', -⟩ := exists_bodies_of_ofText read'
  have written : l.toText = l'.toText :=
    wellFormed.textBodies_areOf.text_eq.trans (same ▸ wellFormed'.textBodies_areOf.text_eq.symm)
  rw [written, again'] at again
  exact (Except.ok.inj again).symm

/-- **Only the spelling of numbers is lost.** A text that is read as a license consists of eight
groups, and so does the text form of the license. The bodies of the two are the same, except that
the numbers in the text form are spelled canonically. So the text form is the text itself if and
only if the numbers of the text are spelled canonically already, and the license is read back from
it. Another text is read as the same license if and only if its bodies are the same, except that its
numbers may be spelled in another way. -/
theorem rewritten_up_to_spelling (read : ofText text = .ok l) :
    (∃ given written : Bodies, given.AreOf text ∧ written.AreOf l.toText ∧
      written.Respells given ∧ written.IsCanonical ∧ (l.toText = text ↔ given.IsCanonical)) ∧
    ofText l.toText = .ok l ∧
    ∀ text' l', ofText text' = .ok l' →
      (l = l' ↔ ∃ given given' : Bodies, given.AreOf text ∧ given'.AreOf text' ∧
        given.Respells given') := by
  obtain ⟨wellFormed, again, given, areOf, respells⟩ := exists_bodies_of_ofText read
  have canonical := wellFormed.isCanonical_textBodies
  have written := wellFormed.textBodies_areOf
  refine ⟨⟨given, l.textBodies, areOf, written, respells, canonical, ?_, ?_⟩, again,
    fun text' l' read' => ?_⟩
  · intro same
    rw [same] at written
    exact areOf.unique written ▸ canonical
  · intro already
    rw [written.text_eq, respells.eq canonical already, areOf.text_eq]
  · obtain ⟨wellFormed', -, given', areOf', respells'⟩ := exists_bodies_of_ofText read'
    constructor
    · rintro rfl
      exact ⟨given, given', areOf, areOf', respells.symm.trans respells'⟩
    · rintro ⟨b, b', hb, hb', same⟩
      obtain rfl := areOf.unique hb
      obtain rfl := areOf'.unique hb'
      have both := (respells.trans same).trans respells'.symm
      exact eq_of_textBodies_eq read read'
        (both.eq canonical wellFormed'.isCanonical_textBodies)

/-- A text with signs and leading zeros is not the one that is written of its license, but that one
is read as the same license and differs in the spelling of numbers only. -/
theorem rewritten_up_to_spelling_specimen :
    let text := "[ Ada ][Acme, Ltd][Édition][+5][-0][007][+1][export,  print]"
    let plain := "[ Ada ][Acme, Ltd][Édition][5][0][7][1][export,  print]"
    ofText text = .ok specimenSentence.license ∧ specimenSentence.license.toText = plain ∧
      ofText plain = .ok specimenSentence.license ∧
      ¬ specimenSentence.textBodies.IsCanonical ∧
      ∃ given given' : Bodies, given.AreOf text ∧ given'.AreOf plain ∧ given.Respells given' := by
  intro text plain
  have spelled : specimenSentence.text = text := by decide
  have written : specimenSentence.license.toText = plain := by decide
  have read : ofText text = .ok specimenSentence.license :=
    ofText_eq_ok_iff.mpr ⟨specimenSentence, spelled, rfl⟩
  obtain ⟨⟨given, -, areOf, -, -, -, stays⟩, again, sameLicense⟩ := rewritten_up_to_spelling read
  rw [written] at again stays
  obtain rfl := areOf.unique (spelled ▸ specimenSentence.textBodies_areOf)
  exact ⟨read, written, again, fun canonical => absurd (stays.mpr canonical) (by decide),
    (sameLicense plain _ again).mp rfl⟩

end License

end Licensing
