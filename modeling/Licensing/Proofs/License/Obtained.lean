import Licensing.Proofs.License.BinaryForm
import Licensing.Proofs.SignedLicense

/-!
# Licenses that can be had

However a license is had, its values meet the conditions on a license: made from settings, made
again from those of another one, copied, read from one of its forms, or opened. Each license whose
values meet the conditions can be had, and can be made again from its own values.

## Main definitions

* `License.Obtained` — the ways to have a license.

## Main results

* `License.copy_eq` — a copy is the same license.
* `License.wellFormed_of_ofText`, `License.wellFormed_of_ofBinary`,
  `SignedLicense.wellFormed_of_unseal` — what is read or opened is well formed.
* `License.Obtained.wellFormed` — a license that is had is well formed.
* `License.obtained_iff_wellFormed` — the licenses that can be had, and how they are made again.
-/

namespace Licensing

namespace License

/-- The ways to have a license. -/
inductive Obtained : License → Prop where
  /-- Made from settings. -/
  | built {settings : List Setting} {l : License} (made : build settings = .ok l) : Obtained l
  /-- Made from the settings of another license, without its features, and from further ones. -/
  | rebuilt {l : License} {more : List Setting} {again : License} (had : Obtained l)
      (made : build (l.settings ++ more) = .ok again) : Obtained again
  | copied {l : License} (had : Obtained l) : Obtained l.copy
  | ofText {text : String} {l : License} (read : ofText text = .ok l) : Obtained l
  | ofTextBytes {bytes : Bytes} {l : License} (read : ofTextBytes bytes = .ok l) : Obtained l
  | ofBinary {bytes : Bytes} {l : License} (read : ofBinary bytes = .ok l) : Obtained l
  /-- Opened from a signed license. -/
  | unsealed {s : SignedLicense} {key : PublicKey} {password : Bytes} {l : License}
      (opened : s.unseal key password = .ok l) : Obtained l

/-! ### Copies -/

/-- A copy of a license is the same license: its features are read as they are. -/
theorem copy_eq (l : License) : l.copy = l := rfl

/-! ### What is read or opened -/

theorem wellFormed_of_ofSettings {settings : List Setting} {l : License}
    (h : ofSettings settings = .ok l) : l.WellFormed :=
  wellFormed_of_build (ofSettings_eq_ok_iff.mp h)

theorem wellFormed_of_ofTextFields {fields : List (List Char)} {l : License}
    (h : ofTextFields fields = .ok l) : l.WellFormed := by
  unfold ofTextFields at h
  split at h
  · simp only [bind_eq_ok_iff] at h
    obtain ⟨_, -, _, -, _, -, _, -, made⟩ := h
    exact wellFormed_of_ofSettings made
  · cases h

theorem wellFormed_of_ofText {text : String} {l : License} (h : ofText text = .ok l) :
    l.WellFormed := by
  obtain ⟨fields, -, made⟩ := bind_eq_ok_iff.mp h
  exact wellFormed_of_ofTextFields made

theorem wellFormed_of_ofTextBytes {bytes : Bytes} {l : License} (h : ofTextBytes bytes = .ok l) :
    l.WellFormed := by
  unfold ofTextBytes at h
  split at h
  · exact wellFormed_of_ofText h
  · cases h

theorem wellFormed_of_ofBinary {bytes : Bytes} {l : License} (h : ofBinary bytes = .ok l) :
    l.WellFormed :=
  (ofBinary_eq_ok_iff.mp h).2

end License

/-- A license that is opened is well formed, whoever signed it. -/
theorem SignedLicense.wellFormed_of_unseal {s : SignedLicense} {key : PublicKey} {password : Bytes}
    {l : License} (h : s.unseal key password = .ok l) : l.WellFormed := by
  obtain ⟨-, plaintext, -, read⟩ := unseal_eq_ok_iff.mp h
  exact License.wellFormed_of_ofBinary read

namespace License

/-! ### However a license is had -/

/-- A license that is had is well formed. -/
theorem Obtained.wellFormed {l : License} (h : l.Obtained) : l.WellFormed := by
  induction h with
  | built made => exact wellFormed_of_build made
  | rebuilt _ made _ => exact wellFormed_of_build made
  | copied _ ih => rwa [copy_eq]
  | ofText read => exact wellFormed_of_ofText read
  | ofTextBytes read => exact wellFormed_of_ofTextBytes read
  | ofBinary read => exact wellFormed_of_ofBinary read
  | unsealed opened => exact SignedLicense.wellFormed_of_unseal opened

/-- A well-formed license is made again from its settings, without its features. -/
theorem WellFormed.build_settings {l : License} (h : l.WellFormed) :
    build l.settings = .ok { l with features := [] } := by
  have bare : WellFormed { l with features := [] } :=
    { h with features := by simp, distinct := List.nodup_nil }
  have made := build_allSettings_eq_ok_iff.mpr ⟨bare, rfl⟩
  rwa [allSettings, List.map_nil, List.append_nil] at made

/-- **Licenses that can be had.** The licenses that can be had are the well-formed ones, and each of
them can be made from settings. One that is had is made again from its own settings, without its
features, and is the same again once its features are added in order; a copy of it is the same. -/
theorem obtained_iff_wellFormed (l : License) :
    (l.Obtained ↔ l.WellFormed) ∧
      (l.WellFormed ↔ ∃ settings, build settings = .ok l) ∧
        (l.Obtained →
          build l.settings = .ok { l with features := [] } ∧
            build (l.settings ++ l.features.map .feature) = .ok l ∧ l.copy = l) := by
  refine ⟨⟨Obtained.wellFormed, fun wellFormed => ?_⟩, exists_build_iff.symm, fun had => ?_⟩
  · obtain ⟨settings, made⟩ := exists_build_iff.mpr wellFormed
    exact .built made
  · have wellFormed := had.wellFormed
    exact ⟨wellFormed.build_settings, build_allSettings_eq_ok_iff.mpr ⟨wellFormed, rfl⟩,
      copy_eq l⟩

/-- The license with a lasting feature and one that ends, copied, is made again from its own
settings. -/
theorem obtained_iff_wellFormed_specimen :
    specimen.copy.Obtained ∧
      build specimen.copy.settings = .ok { specimen.copy with features := [] } ∧
        build (specimen.copy.settings ++ specimen.copy.features.map .feature) =
          .ok specimen.copy := by
  have had : specimen.copy.Obtained := .copied (.built build_specimen)
  obtain ⟨made, again, -⟩ := (obtained_iff_wellFormed specimen.copy).2.2 had
  exact ⟨had, made, again⟩

end License

end Licensing
