import Licensing.Proofs.Bytes.Text
import Licensing.Proofs.Bytes.Hex
import Licensing.Proofs.Context
import Licensing.Proofs.Store.Directory
import Licensing.Proofs.Store.StoredLicense
import Licensing.Store.Basic

/-!
# The operations of a license store

## Main definitions

* `Store.licenseFile` — the file of a signed license.
* `Store.saved` — the directory after a license was saved.

## Main results

* `Store.fileName_eq_fileName_iff`, `Store.fileName_ne_temporaryName` — which contexts share a file,
  and that no file is written under the name of a license.
* `Store.load_of_find?_eq_some`, `Store.signed_of_load_eq_some` — a license is read back from its
  file.
* `Store.save_eq_ok_iff`, `Store.delete_eq_ok_iff`, `Store.clear_eq_ok_iff` — when a change
  succeeds, and the directory after it.
* `Store.save_eq_ok_iff_of_isPlain` — the same for a license that is written where no link is.
* `Store.sameBut_save`, `Store.sameBut_delete`, `Store.sameBut_clear` — what a change leaves alone,
  also when it fails.
* `Store.signed_of_save` — a license that was saved is the license of its context.
-/

namespace Licensing.Store

/-! ### Names of files -/

/-- Contexts share a file exactly if they share a digest. -/
theorem fileName_eq_fileName_iff {context other : String} :
    fileName context = fileName other ↔ Context.digest context = Context.digest other := by
  constructor
  · intro h
    have hash : contextHash context = contextHash other := by
      have := congrArg String.toList h
      rw [fileName, fileName, String.toList_append, String.toList_append] at this
      exact String.toList_injective (List.append_cancel_right this)
    exact Hex.encode_injective hash
  · intro h
    rw [fileName, contextHash]
    exact congrArg (fun digest => Hex.encode digest ++ ".json") h

theorem getLast?_fileName (context : String) : (fileName context).toList.getLast? = some 'n' := by
  rw [fileName, String.toList_append, List.getLast?_append]
  simp

theorem getLast?_temporaryName (context : String) :
    (temporaryName context).toList.getLast? = some 'p' := by
  rw [temporaryName, String.toList_append, List.getLast?_append]
  simp

/-- No file is written under the name of a license. -/
theorem fileName_ne_temporaryName (context other : String) :
    fileName context ≠ temporaryName other := by
  intro h
  have last := getLast?_fileName context
  rw [h, getLast?_temporaryName] at last
  cases last

theorem length_contextHash (context : String) : (contextHash context).toList.length = 64 := by
  rw [contextHash, Hex.toList_encode, Hex.length_digits, Sha256.length_digest]

theorem isLicenseName_fileName (context : String) : isLicenseName (fileName context) = true := by
  have length : (fileName context).length = 69 := by
    rw [← String.length_toList, fileName, String.toList_append, List.length_append,
      length_contextHash]
    rfl
  rw [isLicenseName, length, fileName, String.toList_append]
  simp

/-- A name that begins with a digest and has an ending without slashes is one in the directory. -/
theorem isInside_contextHash_append {context ending : String}
    (plain : '/' ∉ ending.toList) : Directory.isInside (contextHash context ++ ending) := by
  have length : (contextHash context ++ ending).length = 64 + ending.length := by
    rw [String.length_append, ← String.length_toList, length_contextHash]
  have dot : contextHash context ++ ending ≠ "." := by
    intro eq
    rw [eq] at length
    have one : ".".length = 1 := rfl
    omega
  have dots : contextHash context ++ ending ≠ ".." := by
    intro eq
    rw [eq] at length
    have two : "..".length = 2 := rfl
    omega
  have slash : '/' ∉ (contextHash context ++ ending).toList := by
    rw [String.toList_append, List.mem_append]
    rintro (digit | last)
    · exact absurd (Hex.isDigit_of_mem_encode digit) (by decide)
    · exact plain last
  rw [String.toList_append] at slash
  simpa [Directory.isInside, dot, dots] using slash

theorem isInside_fileName (context : String) : Directory.isInside (fileName context) = true :=
  isInside_contextHash_append (by decide)

theorem isInside_temporaryName (context : String) :
    Directory.isInside (temporaryName context) = true :=
  isInside_contextHash_append (by decide)

/-- The names of the files of a context need room for 69 bytes. -/
theorem reaches_of_room {d : Directory} (room : 69 ≤ d.room) (context : String) :
    d.reaches (fileName context) = true ∧ d.reaches (temporaryName context) = true := by
  have ascii : ∀ c ∈ (contextHash context).toList, c.toNat < 128 := fun c mem =>
    Hex.toNat_lt_of_isDigit (Hex.isDigit_of_mem_encode mem)
  have json : ".json".utf8ByteSize = 5 := by decide
  have tmp : ".tmp".utf8ByteSize = 4 := by decide
  have size := Bytes.utf8ByteSize_of_ascii ascii
  rw [length_contextHash] at size
  simp only [Directory.reaches, fileName, temporaryName, String.utf8ByteSize_append, size, json,
    tmp, decide_eq_true_eq]
  omega

variable {d : Directory}

/-- The file of a signed license that was saved at a time. -/
def licenseFile (now : Instant) (s : SignedLicense) : Entry :=
  .file (Bytes.ofText (StoredLicense.ofSigned s now).toDocument)

/-- What is loaded for a context is what is read under the name of its file. -/
theorem load_congr {other : Directory} {context : String}
    (h : other.at? (fileName context) = d.at? (fileName context)) :
    load other context = load d context := by
  rw [load, load, h]

theorem load_of_at?_eq_none {context : String} (h : d.at? (fileName context) = none) :
    load d context = .ok none := by
  rw [load, h]

/-- A license is read back from its file, with the time at which it was saved as this is written. -/
theorem load_of_at?_eq_some {now : Instant} (range : now.InRange) {context : String}
    {s : SignedLicense} (h : d.at? (fileName context) = some (licenseFile now s)) :
    load d context = .ok (some (.ofSigned s now.asWritten)) := by
  have read : StoredLicense.ofDocument (StoredLicense.ofSigned s now).toDocument =
      .ok (.ofSigned s now.asWritten) :=
    StoredLicense.ofDocument_toDocument range
  rw [load, h]
  simp only [licenseFile, Utf8.decode_ofText, read]
  rfl

theorem signed_of_load_eq_none {context : String} (h : load d context = .ok none) :
    signed d context = .ok none := by
  rw [signed, h]
  rfl

theorem signed_of_load_eq_some {now : Instant} {context : String} {s : SignedLicense}
    (h : load d context = .ok (some (.ofSigned s now))) : signed d context = .ok (some s) := by
  rw [signed, h]
  change (((StoredLicense.ofSigned s now).toSigned.mapError Error.format) >>= _ :
    Except Error (Option SignedLicense)) = _
  rw [StoredLicense.toSigned_ofSigned]
  rfl

/-! ### Changes -/

variable {faults : Faults} {after : Directory}

/-- The directory after the entry under the other name of a context got the name of its license. -/
def renamed (d : Directory) (context : String) (entry : Entry) : Directory :=
  (d.erase (temporaryName context)).insert (fileName context) entry

/-- The directory after a license was saved: the file was written under its other name first. -/
def saved (d : Directory) (now : Instant) (context : String) (s : SignedLicense) : Directory :=
  renamed (d.insert (temporaryName context) (licenseFile now s)) context (licenseFile now s)

/-- A license is saved if nothing stands against it: it is written where links lead from the other
name of its context, and what is under this name, the file or a link, gets the name of the license.
-/
theorem save_eq_ok_iff {now : Instant} {context : String} {s : SignedLicense} :
    (save faults now context s).on d = (.ok (), after) ↔
      (faults.write = none ∧ faults.rename = false) ∧ d.reaches (fileName context) ∧
        ∃ place entry, d.place? (temporaryName context) = some place ∧
          (d.insert place (licenseFile now s)).find? (temporaryName context) = some entry ∧
          (d.insert place (licenseFile now s)).find? (fileName context) ≠ some .folder ∧
            after = renamed (d.insert place (licenseFile now s)) context entry := by
  change (Disk.writeFile _ _ _ _ >>= fun _ => Disk.rename _ _ _ _ : Disk Unit).on d = _ ↔ _
  rw [Disk.then_eq_ok_iff]
  simp only [Disk.writeFile_eq_ok_iff, Disk.rename_eq_ok_iff]
  constructor
  · rintro ⟨middle, ⟨place, written, whole, rfl⟩, entry, found, renamed, reached, free, rfl⟩
    exact ⟨⟨whole, renamed⟩, reached, place, entry, written, found, free, rfl⟩
  · rintro ⟨⟨whole, renamed⟩, reached, place, entry, written, found, free, rfl⟩
    exact ⟨_, ⟨place, written, whole, rfl⟩, entry, found, renamed, reached, free, rfl⟩

/-- A license that is written where no link is, is saved if no folder stands against it. -/
theorem save_eq_ok_iff_of_isPlain {now : Instant} {context : String} {s : SignedLicense}
    (plain : d.IsPlain (temporaryName context)) :
    (save faults now context s).on d = (.ok (), after) ↔
      (faults.write = none ∧ faults.rename = false) ∧ d.entries.isSome ∧
        (d.reaches (temporaryName context) ∧ d.reaches (fileName context)) ∧
          (d.find? (temporaryName context) ≠ some .folder ∧
            d.find? (fileName context) ≠ some .folder) ∧
            after = saved d now context s := by
  have distinct := fileName_ne_temporaryName context context
  rw [save_eq_ok_iff]
  simp only [Directory.place?_eq_some_iff_of_isPlain plain]
  constructor
  · rintro ⟨whole, reached, place, entry, ⟨rfl, ⟨present, short⟩, vacant⟩, found, free, rfl⟩
    rw [Directory.find?_insert present short, if_pos rfl] at found
    rw [Directory.find?_insert present short, if_neg distinct] at free
    cases found
    exact ⟨whole, present, ⟨short, reached⟩, ⟨mt Directory.under?_of_find? vacant, free⟩, rfl⟩
  · rintro ⟨whole, present, ⟨short, reached⟩, ⟨vacant, free⟩, rfl⟩
    rw [Directory.find?, if_pos short] at vacant
    refine ⟨whole, reached, _, licenseFile now s, ⟨rfl, ⟨present, short⟩, vacant⟩, ?_, ?_, rfl⟩
    · rw [Directory.find?_insert present short, if_pos rfl]
    · rwa [Directory.find?_insert present short, if_neg distinct]

/-- With nothing that fails for no reason, every license is saved in the empty directory. -/
theorem save_empty (now : Instant) (context : String) (s : SignedLicense) :
    (save Faults.none now context s).on Directory.empty =
      (.ok (), saved Directory.empty now context s) := by
  have room : 69 ≤ Directory.empty.room := by decide
  obtain ⟨file, temporary⟩ := reaches_of_room room context
  have nothing := Directory.under?_of_entries_nil (d := Directory.empty) rfl
  have plain := Directory.isPlain_of_under?_eq_none (nothing (temporaryName context))
  refine (save_eq_ok_iff_of_isPlain plain).mpr ⟨⟨rfl, rfl⟩, rfl, ⟨temporary, file⟩, ⟨?_, ?_⟩, rfl⟩
  · simp [Directory.find?, nothing]
  · simp [Directory.find?, nothing]

@[simp] theorem isSome_entries_saved (now : Instant) (context : String) (s : SignedLicense) :
    (saved d now context s).entries.isSome = d.entries.isSome := by
  simp [saved, renamed, Directory.insert, Directory.erase]

/-- No name becomes a link when a license is saved. -/
theorem isPlain_saved {name : String} (plain : d.IsPlain name) (present : d.entries.isSome)
    (now : Instant) (context : String) (s : SignedLicense) :
    (saved d now context s).IsPlain name := by
  have erased : ((d.insert (temporaryName context) (licenseFile now s)).erase
      (temporaryName context)).entries.isSome := by
    simpa [Directory.insert, Directory.erase] using present
  exact ((plain.insert present _ _).erase _).insert erased _ _

/-- A license that was saved is under the name of its context, and nothing is under the other. -/
theorem find?_saved (present : d.entries.isSome) {now : Instant} {context : String}
    {s : SignedLicense}
    (reached : d.reaches (temporaryName context) ∧ d.reaches (fileName context)) (name : String) :
    (saved d now context s).find? name =
      if name = fileName context then some (licenseFile now s)
      else if name = temporaryName context then none
      else d.find? name := by
  have written : ((d.insert (temporaryName context) (licenseFile now s)).erase
      (temporaryName context)).entries.isSome = true := by
    simpa [Directory.insert, Directory.erase] using present
  rw [saved, renamed, Directory.find?_insert written reached.2, Directory.find?_erase,
    Directory.find?_insert present reached.1]
  split_ifs <;> rfl

/-- A license that was saved in the empty directory is loaded, with its time as this is written. -/
theorem load_saved_empty {now : Instant} (range : now.InRange) (context : String)
    (s : SignedLicense) :
    load (saved Directory.empty now context s) context =
      .ok (some (.ofSigned s now.asWritten)) := by
  have room : 69 ≤ Directory.empty.room := by decide
  refine load_of_at?_eq_some range (Directory.at?_of_find?_eq_file ?_)
  rw [find?_saved rfl (reaches_of_room room context).symm, if_pos rfl, licenseFile]

theorem names_renamed (present : d.entries.isSome) (context : String) (entry : Entry) :
    (renamed d context entry).names =
      d.names.filter (fun name => name != fileName context && name != temporaryName context) ++
        [fileName context] := by
  have erased : (d.erase (temporaryName context)).entries.isSome := by
    simpa [Directory.erase] using present
  rw [renamed, Directory.names_insert erased (isInside_fileName context), Directory.names_erase,
    List.filter_filter]

theorem names_saved (present : d.entries.isSome) (now : Instant) (context : String)
    (s : SignedLicense) :
    (saved d now context s).names =
      d.names.filter (fun name => name != fileName context && name != temporaryName context) ++
        [fileName context] := by
  have written : (d.insert (temporaryName context) (licenseFile now s)).entries.isSome := by
    simpa [Directory.insert] using present
  rw [saved, names_renamed written, Directory.names_insert present (isInside_temporaryName context)]
  simp [List.filter_append, List.filter_filter]

theorem on_delete (faults : Faults) (context : String) (d : Directory) :
    (delete faults context).on d =
      if (d.at? (fileName context)).isSome then
        (Disk.removeFile faults (fileName context) .delete).on d
      else (.ok (), d) := by
  rw [delete, Disk.on_bind]
  change (ite _ _ _ : Disk Unit).on d = _
  split <;> rfl

/-- The license of a context is deleted if it is a file or a link that can be removed, or if nothing
can be read there. -/
theorem delete_eq_ok_iff {context : String} :
    (delete faults context).on d = (.ok (), after) ↔
      d.at? (fileName context) = none ∧ after = d ∨
        d.at? (fileName context) ≠ none ∧ d.isRemovable (fileName context) ∧
          fileName context ∉ faults.remove ∧ after = d.erase (fileName context) := by
  rw [on_delete]
  split
  · next there =>
    rw [Disk.removeFile_eq_ok_iff]
    have present : d.at? (fileName context) ≠ none := Option.isSome_iff_ne_none.mp there
    simp [present]
  · next missing =>
    have absent : d.at? (fileName context) = none := Option.not_isSome_iff_eq_none.mp missing
    simp [absent, eq_comm (a := d)]

/-- The names of licenses that are listed are the first ones. -/
theorem listed_prefix (faults : Faults) (names : List String) :
    (faults.listed names).filter isLicenseName <+: names.filter isLicenseName := by
  have first : faults.listed names <+: names := by
    rcases h : faults.list with _ | _ | count <;> simp [Faults.listed, h, List.take_prefix]
  exact first.filter _

theorem listed_of_complete {faults : Faults} (opened : faults.list ≠ some .unopened)
    (complete : ∀ count, faults.list ≠ some (.cut count)) :
    faults.list = none ∧ ∀ names, faults.listed names = names := by
  rcases h : faults.list with _ | _ | count
  · exact ⟨rfl, fun names => by rw [Faults.listed, h]⟩
  · exact absurd h opened
  · exact absurd h (complete count)

/-- The licenses are all deleted if they are files or links that can be removed. -/
theorem clear_eq_ok_iff :
    (clear faults).on d = (.ok (), after) ↔
      (faults.list = none ∧ d.entries.isSome) ∧ (d.names.filter isLicenseName).Nodup ∧
        (∀ name ∈ d.names.filter isLicenseName, d.isRemovable name ∧ name ∉ faults.remove) ∧
          after = (d.names.filter isLicenseName).foldl Directory.erase d := by
  change (Disk.list _ _ >>= fun names => Disk.removeFiles _ _ (names.filter isLicenseName) >>=
    fun _ => Disk.endList _ _ : Disk Unit).on d = _ ↔ _
  rw [Disk.bind_eq_ok_iff]
  simp only [Disk.then_eq_ok_iff, Disk.list_eq_ok_iff, Disk.removeFiles_eq_ok_iff,
    Disk.endList_eq_ok_iff]
  constructor
  · rintro ⟨_, _, ⟨opened, present, rfl, rfl⟩, _, ⟨nodup, files, rfl⟩, complete, rfl⟩
    obtain ⟨all, listed⟩ := listed_of_complete opened complete
    rw [listed] at nodup files ⊢
    exact ⟨⟨all, present⟩, nodup, files, rfl⟩
  · rintro ⟨⟨all, present⟩, nodup, files, rfl⟩
    have listed : faults.listed d.names = d.names := by rw [Faults.listed, all]
    refine ⟨_, _, ⟨by simp [all], present, rfl, rfl⟩, _, ⟨?_, ?_, rfl⟩, by simp [all], ?_⟩
    · rwa [listed]
    · rwa [listed]
    · rw [listed]

/-- Whether all licenses are deleted or not, the first ones are, up to one that is not listed or
cannot be removed. -/
theorem clear_split (faults : Faults) (d : Directory) :
    ∃ removed rest, d.names.filter isLicenseName = removed ++ rest ∧
      ((clear faults).on d).2 = removed.foldl Directory.erase d ∧
      (∀ name ∈ removed, d.isRemovable name) := by
  change ∃ removed rest, _ ∧ ((Disk.list _ _ >>= fun names =>
    Disk.removeFiles _ _ (names.filter isLicenseName) >>= fun _ => Disk.endList _ _ :
      Disk Unit).on d).2 = _ ∧ _
  rw [Disk.on_bind, Disk.on_list]
  split
  · next names middle listed =>
    split at listed
    · cases listed
    · cases listed
      obtain ⟨unlisted, first⟩ := listed_prefix faults d.names
      obtain ⟨removed, rest, split, after, files⟩ :=
        Disk.removeFiles_split faults .clear ((faults.listed d.names).filter isLicenseName) d
      refine ⟨removed, rest ++ unlisted, by rw [← first, split, List.append_assoc], ?_, files⟩
      rw [← after, Disk.on_bind]
      split
      · next middle removed => rw [removed, Disk.snd_on_endList]
      · next e middle refused => rw [refused]
  · next e middle refused =>
    split at refused
    · cases refused
      exact ⟨[], _, rfl, rfl, by simp⟩
    · cases refused

/-- Saving a license changes nothing but the two names of its context and the file to which links
lead from the second one, whatever fails. -/
theorem sameBut_save (faults : Faults) (now : Instant) (context : String) (s : SignedLicense)
    (d : Directory) :
    d.SameBut ([fileName context, temporaryName context] ++
      (d.place? (temporaryName context)).toList) ((save faults now context s).on d).2 := by
  change d.SameBut _ ((Disk.writeFile _ _ _ _ >>= fun _ => Disk.rename _ _ _ _ : Disk Unit).on d).2
  have written := Disk.sameBut_writeFile faults (temporaryName context)
    (Bytes.ofText (StoredLicense.ofSigned s now).toDocument) .writeTemporary d
  rw [Disk.on_bind]
  split
  · next middle first =>
    rw [first] at written
    exact (written.mono (List.subset_append_right _ _)).trans
      ((Disk.sameBut_rename faults _ _ _ middle).mono (List.subset_append_left _ _))
  · next middle first =>
    rw [first] at written
    exact written.mono (List.subset_append_right _ _)

/-- Without a link under the second name, these are all that change. -/
theorem sameBut_save_of_isPlain (faults : Faults) (now : Instant) {context : String}
    (s : SignedLicense) {d : Directory} (plain : d.IsPlain (temporaryName context)) :
    d.SameBut [fileName context, temporaryName context] ((save faults now context s).on d).2 := by
  refine (sameBut_save faults now context s d).mono fun name mem => ?_
  rw [List.mem_append, Option.mem_toList] at mem
  rcases mem with named | place
  · exact named
  · obtain ⟨rfl, -⟩ := (Directory.place?_eq_some_iff_of_isPlain plain).mp place
    simp

/-- Deleting a license changes nothing but the file of its context, whatever fails. -/
theorem sameBut_delete (faults : Faults) (context : String) (d : Directory) :
    d.SameBut [fileName context] ((delete faults context).on d).2 := by
  rw [on_delete]
  split
  · exact Disk.sameBut_removeFile faults _ _ d
  · exact .refl _ d

/-- No name becomes a link by a save that writes where no link is, whatever fails. -/
theorem isPlain_save (faults : Faults) (now : Instant) {context : String} (s : SignedLicense)
    (temporary : d.IsPlain (temporaryName context)) {name : String} (plain : d.IsPlain name) :
    ((save faults now context s).on d).2.IsPlain name := by
  change ((Disk.writeFile _ _ _ _ >>= fun _ => Disk.rename _ _ _ _ : Disk Unit).on d).2.IsPlain _
  have written {other : String} (h : d.IsPlain other) :=
    Disk.isPlain_writeFile faults (temporaryName context)
      (Bytes.ofText (StoredLicense.ofSigned s now).toDocument) .writeTemporary h
  rw [Disk.on_bind]
  split
  · next middle first =>
    rw [first] at written
    exact Disk.isPlain_rename faults _ _ (written temporary) (written plain)
  · next middle first =>
    rw [first] at written
    exact written plain

/-- Nor does one by a deletion. -/
theorem isPlain_delete (faults : Faults) (context : String) {name : String}
    (plain : d.IsPlain name) : ((delete faults context).on d).2.IsPlain name := by
  rw [on_delete]
  split
  · exact Disk.isPlain_removeFile faults _ _ plain
  · exact plain

/-- Deleting all licenses changes nothing but the files of licenses, whatever fails. -/
theorem sameBut_clear (faults : Faults) (d : Directory) :
    d.SameBut (d.names.filter isLicenseName) ((clear faults).on d).2 := by
  obtain ⟨removed, rest, split, after, -⟩ := clear_split faults d
  rw [split, after]
  exact (d.sameBut_foldl_erase removed).mono (List.subset_append_left _ _)

end Licensing.Store
