import Licensing.Proofs.Lists
import Licensing.Proofs.Store.Basic
import Mathlib.Data.List.Induction

/-!
# A license store is a map

A run is a list of calls to one store, each with what fails for no reason while it is carried out. A
run that no failure disturbs answers like a map from contexts to licenses, as long as its contexts
have digests of their own; the time of a save is read as it is written.

## Main definitions

* `Store.Command`, `Store.Call` — what is asked of a store, and a call to it.
* `Store.Call.perform`, `Store.after` — what comes of a call, and the directory after a run.
* `Store.Contents`, `Store.contentsAfter` — a map from contexts to licenses, and what it holds after
  a run.
* `Store.Undisturbed` — no change of a run fails.
* `Store.Holds` — the directory holds the files of a map and nothing else.

## Main results

* `Store.contentsAfter_eq_some_iff` — the map holds the license of the last save for a context,
  unless it was deleted since.
* `Store.Holds.perform` — one call answers like the map and leaves the files of the map after it.
* `Store.undisturbed_of_no_faults` — with room for the names, nothing fails that has no reason to.
* `Store.answers_like_map` — a run answers like a map, and its files are those of the map; a context
  concerns only two names.
* `Store.not_always_stored_at` — a save whose time is not the one that is read.
-/

namespace Licensing.Store

/-- What is asked of a store. -/
inductive Command where
  /-- To keep a license for a context, at a time. -/
  | save (now : Instant) (context : String) (license : SignedLicense)
  /-- To keep no license for a context. -/
  | delete (context : String)
  /-- To keep no license. -/
  | clear
  /-- What is stored for a context. -/
  | load (context : String)
  /-- The license of a context. -/
  | signed (context : String)

namespace Command

/-- The context that a command is about. -/
def context? : Command → Option String
  | save _ context _ | delete context | load context | signed context => some context
  | clear => none

/-- The time at which a command keeps a license. -/
def time? : Command → Option Instant
  | save now _ _ => some now
  | _ => none

/-- The command is a change. -/
def IsChange : Command → Prop
  | save .. | delete _ | clear => True
  | load _ | signed _ => False

/-- After the command it does not matter what a context had before. -/
def Settles (context : String) : Command → Prop
  | save _ other _ | delete other => other = context
  | clear => True
  | load _ | signed _ => False

end Command

/-- What comes of a command that succeeds. -/
inductive Answer where
  | done
  | stored (license : Option StoredLicense)
  | license (license : Option SignedLicense)

/-- A command, and what fails while it is carried out. -/
structure Call where
  command : Command
  faults : Faults

/-- What comes of a change. -/
def Call.done (change : Except Error Unit × Directory) : Except Error Answer × Directory :=
  (change.1.map fun _ => .done, change.2)

@[simp] theorem snd_done (change : Except Error Unit × Directory) :
    (Call.done change).2 = change.2 := rfl

/-- What comes of a call, and the directory after it. -/
def Call.perform (call : Call) (d : Directory) : Except Error Answer × Directory :=
  match call.command with
  | .save now context s => done ((save call.faults now context s).on d)
  | .delete context => done ((delete call.faults context).on d)
  | .clear => done ((clear call.faults).on d)
  | .load context => ((load d context).map .stored, d)
  | .signed context => ((signed d context).map .license, d)

theorem perform_save (faults : Faults) (now : Instant) (context : String) (s : SignedLicense)
    (d : Directory) :
    Call.perform ⟨.save now context s, faults⟩ d = Call.done ((save faults now context s).on d) :=
  rfl

theorem perform_delete (faults : Faults) (context : String) (d : Directory) :
    Call.perform ⟨.delete context, faults⟩ d = Call.done ((delete faults context).on d) := rfl

theorem perform_clear (faults : Faults) (d : Directory) :
    Call.perform ⟨.clear, faults⟩ d = Call.done ((clear faults).on d) := rfl

theorem perform_load (faults : Faults) (context : String) (d : Directory) :
    Call.perform ⟨.load context, faults⟩ d = ((load d context).map .stored, d) := rfl

theorem perform_signed (faults : Faults) (context : String) (d : Directory) :
    Call.perform ⟨.signed context, faults⟩ d = ((signed d context).map .license, d) := rfl

/-- The directory after some calls. -/
def after (calls : List Call) (d : Directory) : Directory :=
  calls.foldl (fun d call => (call.perform d).2) d

/-- No change of a run fails. -/
def Undisturbed (d : Directory) (calls : List Call) : Prop :=
  ∀ before call later, calls = before ++ call :: later → call.command.IsChange →
    ∃ answer, (call.perform (after before d)).1 = .ok answer

theorem after_append (calls : List Call) (call : Call) (d : Directory) :
    after (calls ++ [call]) d = (call.perform (after calls d)).2 := by
  rw [after, List.foldl_append]
  rfl

theorem undisturbed_append {d : Directory} {calls : List Call} {call : Call} :
    Undisturbed d (calls ++ [call]) ↔
      Undisturbed d calls ∧
        (call.command.IsChange → ∃ answer, (call.perform (after calls d)).1 = .ok answer) := by
  constructor
  · intro h
    refine ⟨fun before other later split => ?_, h calls call [] rfl⟩
    exact h before other (later ++ [call]) (by rw [split]; simp)
  · rintro ⟨early, last⟩ before other later split
    rcases append_singleton_eq_iff.mp split with ⟨rfl, rfl, rfl⟩ | ⟨others, rfl, rfl⟩
    · exact last
    · exact early before other others rfl

/-! ### Maps from contexts to licenses -/

/-- A license, and the time at which it was saved. -/
structure Kept where
  license : SignedLicense
  savedAt : Instant

/-- A map from contexts to licenses. -/
abbrev Contents : Type :=
  String → Option Kept

/-- The map after a command. -/
def Command.update (contents : Contents) : Command → Contents
  | save now context s => Function.update contents context (some ⟨s, now⟩)
  | delete context => Function.update contents context none
  | clear => fun _ => none
  | load _ | signed _ => contents

/-- What is read of a license that is kept: the time is the one that is written. -/
def Kept.stored (k : Kept) : StoredLicense :=
  .ofSigned k.license k.savedAt.asWritten

/-- What a map answers. -/
def Command.answer (contents : Contents) : Command → Answer
  | save .. | delete _ | clear => .done
  | load context => .stored ((contents context).map Kept.stored)
  | signed context => .license ((contents context).map (·.license))

/-- What a map holds after some calls, nothing before them. -/
def contentsAfter (calls : List Call) : Contents :=
  calls.foldl (fun contents call => call.command.update contents) fun _ => none

theorem update_of_not_settles {context : String} {command : Command}
    (free : ¬ command.Settles context) (contents : Contents) :
    command.update contents context = contents context := by
  cases command with
  | save now other s => exact Function.update_of_ne (Ne.symm free) _ _
  | delete other => exact Function.update_of_ne (Ne.symm free) _ _
  | clear => exact absurd trivial free
  | load other => rfl
  | signed other => rfl

theorem update_eq_some_iff {context : String} {command : Command}
    (settles : command.Settles context) {contents : Contents} {kept : Kept} :
    command.update contents context = some kept ↔
      command = .save kept.savedAt context kept.license := by
  cases command with
  | save now other s =>
    obtain rfl : other = context := settles
    rw [Command.update, Function.update_self]
    obtain ⟨license, savedAt⟩ := kept
    simp only [Option.some.injEq, Kept.mk.injEq, Command.save.injEq, true_and]
    tauto
  | delete other =>
    obtain rfl : other = context := settles
    simp [Command.update]
  | clear => simp [Command.update]
  | load other => exact settles.elim
  | signed other => exact settles.elim

theorem contentsAfter_append (calls : List Call) (call : Call) :
    contentsAfter (calls ++ [call]) = call.command.update (contentsAfter calls) := by
  rw [contentsAfter, List.foldl_append]
  rfl

/-- A map holds the license of the last save for a context, unless it was deleted or all licenses
were since. -/
theorem contentsAfter_eq_some_iff {calls : List Call} {context : String} {kept : Kept} :
    contentsAfter calls context = some kept ↔
      ∃ before faults later,
        calls = before ++ ⟨.save kept.savedAt context kept.license, faults⟩ :: later ∧
          ∀ call ∈ later, ¬ call.command.Settles context := by
  -- induction from the end of the run: the last call settles what the context has, or leaves it
  induction calls using List.reverseRecOn with
  | nil => simp [contentsAfter]
  | append_singleton calls last ih =>
    rw [contentsAfter_append]
    simp only [append_singleton_eq_iff]
    by_cases settles : last.command.Settles context
    · rw [update_eq_some_iff settles]
      constructor
      · intro saved
        exact ⟨calls, last.faults, [], .inl ⟨rfl, by rw [← saved], rfl⟩, by simp⟩
      · rintro ⟨before, faults, later, ⟨-, rfl, -⟩ | ⟨others, rfl, -⟩, free⟩
        · rfl
        · exact absurd settles (free last (by simp))
    · rw [update_of_not_settles settles, ih]
      constructor
      · rintro ⟨before, faults, later, rfl, free⟩
        refine ⟨before, faults, later ++ [last], .inr ⟨later, rfl, rfl⟩, fun other mem => ?_⟩
        rcases List.mem_append.mp mem with early | final
        · exact free other early
        · rwa [List.mem_singleton.mp final]
      · rintro ⟨before, faults, later, ⟨-, rfl, -⟩ | ⟨others, rfl, rfl⟩, free⟩
        · exact absurd rfl settles
        · exact ⟨before, faults, others, rfl, fun other mem => free other (by simp [mem])⟩

/-! ### The files of a map -/

/-- The directory holds the files of a map for some contexts, and nothing else. -/
structure Holds (contexts : List String) (contents : Contents) (d : Directory) : Prop where
  present : d.entries.isSome
  plain : ∀ name, d.IsPlain name
  find? : ∀ context ∈ contexts,
    d.find? (fileName context) = (contents context).map fun k => licenseFile k.savedAt k.license
  names : ∀ name ∈ d.names, ∃ context ∈ contexts, (contents context).isSome ∧
    name = fileName context
  nodup : d.names.Nodup
  times : ∀ context ∈ contexts, ∀ k ∈ contents context, k.savedAt.InRange

namespace Holds

variable {contexts : List String} {contents : Contents} {d : Directory}

/-- An empty directory holds the files of an empty map. -/
theorem of_empty (contexts : List String) {d : Directory} (empty : d.entries = some []) :
    Holds contexts (fun _ => none) d := by
  have names : d.names = [] := by
    rw [Directory.names, empty]
    rfl
  have nothing := Directory.under?_of_entries_nil empty
  refine ⟨by simp [empty], fun name => Directory.isPlain_of_under?_eq_none (nothing name),
    fun context _ => ?_, by simp [names], by simp [names], by simp⟩
  simp [Directory.find?, nothing]

/-- A name is in the directory exactly if it is that of a context with a license. -/
theorem mem_names_iff (h : Holds contexts contents d) {name : String} :
    name ∈ d.names ↔ ∃ context ∈ contexts, (contents context).isSome ∧ name = fileName context := by
  refine ⟨h.names name, ?_⟩
  rintro ⟨context, mem, held, rfl⟩
  obtain ⟨k, eq⟩ := Option.isSome_iff_exists.mp held
  have found : d.find? (fileName context) = some (licenseFile k.savedAt k.license) := by
    rw [h.find? context mem, eq]
    rfl
  exact Directory.mem_names_of_under? (isInside_fileName context) (Directory.under?_of_find? found)

/-- What is read for a context is the file of its license. -/
theorem at?_eq (h : Holds contexts contents d) {context : String} (mem : context ∈ contexts) :
    d.at? (fileName context) =
      (contents context).map fun k => licenseFile k.savedAt k.license := by
  rw [Directory.at?_of_isPlain (h.plain _), h.find? context mem]

/-- What is stored for a context is what the map holds. -/
theorem load (h : Holds contexts contents d) {context : String} (mem : context ∈ contexts) :
    load d context = .ok ((contents context).map Kept.stored) := by
  have file := h.at?_eq mem
  have times := h.times context mem
  cases held : contents context with
  | none =>
    rw [held] at file
    exact load_of_at?_eq_none file
  | some k =>
    rw [held] at file
    exact load_of_at?_eq_some (times k held) file

/-- The license of a context is what the map holds. -/
theorem signed (h : Holds contexts contents d) {context : String} (mem : context ∈ contexts) :
    signed d context = .ok ((contents context).map (·.license)) := by
  have stored := h.load mem
  cases held : contents context with
  | none =>
    rw [held] at stored
    exact signed_of_load_eq_none stored
  | some k =>
    rw [held] at stored
    exact signed_of_load_eq_some stored

variable (distinguished : Context.Distinguished contexts)

include distinguished in
/-- Contexts with one file are one context. -/
theorem fileName_inj {context other : String} (hc : context ∈ contexts) (ho : other ∈ contexts) :
    fileName context = fileName other ↔ context = other := by
  rw [fileName_eq_fileName_iff]
  exact ⟨distinguished context hc other ho, congrArg _⟩

include distinguished in
/-- The file of one context changes, and with it what the map holds for the context. -/
theorem of_change (h : Holds contexts contents d) {context : String} (mem : context ∈ contexts)
    {kept : Option Kept} (time : ∀ k ∈ kept, k.savedAt.InRange) {d' : Directory}
    (present : d'.entries.isSome) (plain : ∀ name, d'.IsPlain name)
    (file : d'.find? (fileName context) = kept.map fun k => licenseFile k.savedAt k.license)
    (others : ∀ other, fileName other ≠ fileName context →
      d'.find? (fileName other) = d.find? (fileName other))
    (names : ∀ name ∈ d'.names, name ∈ d.names ∧ name ≠ fileName context ∨
      kept.isSome ∧ name = fileName context)
    (nodup : d'.names.Nodup) : Holds contexts (Function.update contents context kept) d' := by
  refine ⟨present, plain, fun other ho => ?_, fun name hn => ?_, nodup, fun other ho k => ?_⟩
  · by_cases same : other = context
    · rw [same, file, Function.update_self]
    · rw [others other fun eq => same ((fileName_inj distinguished ho mem).mp eq),
        Function.update_of_ne same, h.find? other ho]
  · rcases names name hn with ⟨old, apart⟩ | ⟨held, rfl⟩
    · obtain ⟨other, ho, held, rfl⟩ := h.names name old
      have distinct : other ≠ context := fun eq => apart (congrArg fileName eq)
      exact ⟨other, ho, by rwa [Function.update_of_ne distinct], rfl⟩
    · exact ⟨context, mem, by rwa [Function.update_self], rfl⟩
  · by_cases same : other = context
    · rw [same, Function.update_self]
      exact time k
    · rw [Function.update_of_ne same]
      exact h.times other ho k

include distinguished in
/-- Saving a license puts its file in the place of the one before. -/
theorem of_save (h : Holds contexts contents d) {now : Instant} {context : String}
    {s : SignedLicense} (mem : context ∈ contexts) (time : now.InRange)
    (reached : d.reaches (temporaryName context) ∧ d.reaches (fileName context)) :
    Holds contexts (Function.update contents context (some ⟨s, now⟩)) (saved d now context s) := by
  have names := names_saved h.present now context s
  refine h.of_change distinguished mem (by simpa using time) (by simpa using h.present)
    (fun name => isPlain_saved (h.plain name) h.present now context s) ?_ ?_ ?_ ?_
  · rw [find?_saved h.present reached, if_pos rfl]
    rfl
  · intro other apart
    rw [find?_saved h.present reached, if_neg apart,
      if_neg (fileName_ne_temporaryName other context)]
  · intro name hn
    rw [names, List.mem_append, List.mem_filter, List.mem_singleton] at hn
    rcases hn with ⟨old, apart⟩ | rfl
    · exact .inl ⟨old, by simp_all⟩
    · exact .inr ⟨rfl, rfl⟩
  · rw [names]
    refine List.nodup_append.mpr ⟨h.nodup.filter _, by simp, ?_⟩
    simp +contextual

include distinguished in
/-- Removing the file of a context removes its license. -/
theorem of_erase (h : Holds contexts contents d) {context : String} (mem : context ∈ contexts) :
    Holds contexts (Function.update contents context none) (d.erase (fileName context)) := by
  have names := d.names_erase (fileName context)
  refine h.of_change distinguished mem (by simp) (by simpa [Directory.erase] using h.present)
    (fun name => (h.plain name).erase _) ?_ ?_ ?_ ?_
  · rw [Directory.find?_erase, if_pos rfl]
    rfl
  · intro other apart
    rw [Directory.find?_erase, if_neg apart]
  · intro name hn
    rw [names, List.mem_filter] at hn
    exact .inl ⟨hn.1, by simpa using hn.2⟩
  · rw [names]
    exact h.nodup.filter _

/-- All names in the directory are names of licenses. -/
theorem filter_names (h : Holds contexts contents d) : d.names.filter isLicenseName = d.names := by
  rw [List.filter_eq_self]
  intro name mem
  obtain ⟨context, -, -, rfl⟩ := h.names name mem
  exact isLicenseName_fileName context

/-- Removing all files removes all licenses. -/
theorem of_clear (h : Holds contexts contents d) :
    Holds contexts (fun _ => none) (d.names.foldl Directory.erase d) := by
  have names : (d.names.foldl Directory.erase d).names = [] := by
    rw [Directory.names_foldl_erase, List.filter_eq_nil_iff]
    intro name mem
    simpa using mem
  refine ⟨by rw [Directory.isSome_entries_foldl_erase]; exact h.present,
    fun name => (h.plain name).foldl_erase _, fun context _ => ?_, by simp [names], by simp [names],
    by simp⟩
  rw [Directory.find?_foldl_erase]
  split
  · rfl
  · next free =>
    rw [Option.map_none, Option.eq_none_iff_forall_not_mem]
    exact fun entry found => free (Directory.mem_names_of_under? (isInside_fileName context)
      (Directory.under?_of_find? found))

/-- The file of each context is a file, if it is there. -/
theorem find?_ne_folder (h : Holds contexts contents d) {context : String}
    (mem : context ∈ contexts) : d.find? (fileName context) ≠ some .folder := by
  rw [h.find? context mem]
  cases contents context <;> simp [licenseFile]

/-- It can be removed then. -/
theorem isRemovable (h : Holds contexts contents d) {context : String} (mem : context ∈ contexts)
    (held : (contents context).isSome) : d.isRemovable (fileName context) := by
  obtain ⟨k, eq⟩ := Option.isSome_iff_exists.mp held
  have found := h.find? context mem
  rw [eq] at found
  exact Directory.isRemovable_iff.mpr ⟨_, found, by simp [licenseFile]⟩

theorem eq_of_done_eq_ok {x : Except Error Unit × Directory} {answer : Answer}
    (h : (Call.done x).1 = .ok answer) : x = (.ok (), x.2) := by
  obtain ⟨result, after⟩ := x
  cases result with
  | error e => cases h
  | ok u => rfl

include distinguished in
/-- One call that succeeds if it is a change answers like the map, and leaves the files of the map
after it. -/
theorem perform (h : Holds contexts contents d) {call : Call}
    (about : ∀ context ∈ call.command.context?, context ∈ contexts)
    (time : ∀ now ∈ call.command.time?, now.InRange)
    (succeeds : call.command.IsChange → ∃ answer, (call.perform d).1 = .ok answer) :
    (call.perform d).1 = .ok (call.command.answer contents) ∧
      Holds contexts (call.command.update contents) (call.perform d).2 := by
  obtain ⟨command, faults⟩ := call
  cases command with
  | save now context s =>
    obtain ⟨answer, ok⟩ := succeeds trivial
    have done : (save faults now context s).on d = (.ok (), _) := eq_of_done_eq_ok ok
    obtain ⟨-, -, reached, -, eq⟩ := (save_eq_ok_iff_of_isPlain (h.plain _)).mp done
    rw [perform_save, done, eq]
    exact ⟨rfl, h.of_save distinguished (about context rfl) (time now rfl) reached⟩
  | delete context =>
    obtain ⟨answer, ok⟩ := succeeds trivial
    have done : (delete faults context).on d = (.ok (), _) := eq_of_done_eq_ok ok
    have mem := about context rfl
    rcases delete_eq_ok_iff.mp done with ⟨missing, eq⟩ | ⟨-, -, -, eq⟩
    · have nothing : contents context = none := by
        simpa [h.at?_eq mem] using missing
      rw [perform_delete, done, eq]
      refine ⟨rfl, ?_⟩
      change Holds contexts (Function.update contents context none) d
      rwa [Function.update_eq_self_iff.mpr nothing.symm]
    · rw [perform_delete, done, eq]
      exact ⟨rfl, h.of_erase distinguished mem⟩
  | clear =>
    obtain ⟨answer, ok⟩ := succeeds trivial
    have done : (clear faults).on d = (.ok (), _) := eq_of_done_eq_ok ok
    obtain ⟨-, -, -, eq⟩ := clear_eq_ok_iff.mp done
    rw [h.filter_names] at eq
    rw [perform_clear, done, eq]
    exact ⟨rfl, h.of_clear⟩
  | load context =>
    rw [perform_load, h.load (about context rfl)]
    exact ⟨rfl, h⟩
  | signed context =>
    rw [perform_signed, h.signed (about context rfl)]
    exact ⟨rfl, h⟩

/-- With room for the names and nothing that fails for no reason, every change succeeds. -/
theorem perform_of_no_faults (h : Holds contexts contents d) (room : 69 ≤ d.room) {call : Call}
    (about : ∀ context ∈ call.command.context?, context ∈ contexts)
    (none : call.faults = Faults.none) (change : call.command.IsChange) :
    ∃ answer, (call.perform d).1 = .ok answer := by
  obtain ⟨command, faults⟩ := call
  obtain rfl : faults = Faults.none := none
  cases command with
  | save now context s =>
    obtain ⟨file, temporary⟩ := reaches_of_room room context
    have vacant : d.find? (temporaryName context) ≠ some .folder := by
      intro found
      obtain ⟨other, -, -, eq⟩ := h.names _ (Directory.mem_names_of_under?
        (isInside_temporaryName context) (Directory.under?_of_find? found))
      exact fileName_ne_temporaryName other context eq.symm
    have ok : (save Faults.none now context s).on d = (.ok (), saved d now context s) :=
      (save_eq_ok_iff_of_isPlain (h.plain _)).mpr ⟨⟨rfl, rfl⟩, h.present, ⟨temporary, file⟩,
        ⟨vacant, h.find?_ne_folder (about context rfl)⟩, rfl⟩
    exact ⟨.done, by rw [perform_save, ok]; rfl⟩
  | delete context =>
    have mem := about context rfl
    cases held : contents context with
    | none =>
      have missing : d.at? (fileName context) = none := by
        rw [h.at?_eq mem, held]
        rfl
      have ok : (delete Faults.none context).on d = (.ok (), d) :=
        delete_eq_ok_iff.mpr (.inl ⟨missing, rfl⟩)
      exact ⟨.done, by rw [perform_delete, ok]; rfl⟩
    | some k =>
      have there : d.at? (fileName context) ≠ none := by
        rw [h.at?_eq mem, held]
        exact Option.some_ne_none _
      have ok : (delete Faults.none context).on d = (.ok (), d.erase (fileName context)) :=
        delete_eq_ok_iff.mpr
          (.inr ⟨there, h.isRemovable mem (by simp [held]), List.not_mem_nil, rfl⟩)
      exact ⟨.done, by rw [perform_delete, ok]; rfl⟩
  | clear =>
    have files : ∀ name ∈ d.names.filter isLicenseName,
        d.isRemovable name ∧ name ∉ Faults.none.remove := by
      intro name mem
      rw [h.filter_names] at mem
      obtain ⟨context, hc, some, rfl⟩ := h.names name mem
      exact ⟨h.isRemovable hc some, List.not_mem_nil⟩
    have ok : (clear Faults.none).on d = (.ok (), _) :=
      clear_eq_ok_iff.mpr ⟨⟨rfl, h.present⟩, h.nodup.filter _, files, rfl⟩
    exact ⟨.done, by rw [perform_clear, ok]; rfl⟩
  | load context => exact change.elim
  | signed context => exact change.elim

end Holds

/-! ### Runs -/

/-- A call about a context changes nothing but the two files of the context, whatever fails, if no
link stands where its license is written. -/
theorem sameBut_perform {call : Call} {context : String}
    (about : call.command.context? = some context) {d : Directory}
    (plain : d.IsPlain (temporaryName context)) :
    d.SameBut [fileName context, temporaryName context] (call.perform d).2 := by
  obtain ⟨command, faults⟩ := call
  cases command with
  | save now other s =>
    cases about
    rw [perform_save, snd_done]
    exact sameBut_save_of_isPlain faults now s plain
  | delete other =>
    cases about
    rw [perform_delete, snd_done]
    exact (sameBut_delete faults context d).mono (by simp)
  | clear => cases about
  | load other =>
    rw [perform_load]
    exact .refl _ d
  | signed other =>
    rw [perform_signed]
    exact .refl _ d

theorem room_perform (call : Call) (d : Directory) : (call.perform d).2.room = d.room := by
  obtain ⟨command, faults⟩ := call
  cases command with
  | save now context s =>
    rw [perform_save, snd_done]
    exact (sameBut_save faults now context s d).room
  | delete context =>
    rw [perform_delete, snd_done]
    exact (sameBut_delete faults context d).room
  | clear =>
    rw [perform_clear, snd_done]
    exact (sameBut_clear faults d).room
  | load context => rw [perform_load]
  | signed context => rw [perform_signed]

theorem room_after (calls : List Call) (d : Directory) : (after calls d).room = d.room := by
  induction calls generalizing d with
  | nil => rfl
  | cons call calls ih => exact (ih _).trans (room_perform call d)

section Run

variable {d : Directory} {contexts : List String} {calls : List Call}

/-- The run is about some contexts, and keeps licenses at times that a clock can show. -/
structure IsAbout (contexts : List String) (calls : List Call) : Prop where
  context : ∀ call ∈ calls, ∀ context ∈ call.command.context?, context ∈ contexts
  time : ∀ call ∈ calls, ∀ now ∈ call.command.time?, now.InRange

theorem IsAbout.left {later : List Call} (h : IsAbout contexts (calls ++ later)) :
    IsAbout contexts calls :=
  ⟨fun call mem => h.context call (List.mem_append_left _ mem),
    fun call mem => h.time call (List.mem_append_left _ mem)⟩

/-- After an undisturbed run, the directory holds the files of the map. -/
theorem holds_after (empty : d.entries = some [])
    (distinguished : Context.Distinguished contexts) (about : IsAbout contexts calls)
    (undisturbed : Undisturbed d calls) : Holds contexts (contentsAfter calls) (after calls d) := by
  induction calls using List.reverseRecOn with
  | nil => exact .of_empty contexts empty
  | append_singleton calls call ih =>
    obtain ⟨early, last⟩ := undisturbed_append.mp undisturbed
    rw [contentsAfter_append, after_append]
    exact ((ih about.left early).perform distinguished
      (about.context call (by simp)) (about.time call (by simp)) last).2

/-- With room for the names and nothing that fails for no reason, no change of a run fails. -/
theorem undisturbed_of_no_faults (empty : d.entries = some [])
    (distinguished : Context.Distinguished contexts) (about : IsAbout contexts calls)
    (room : 69 ≤ d.room) (none : ∀ call ∈ calls, call.faults = Faults.none) :
    Undisturbed d calls := by
  induction calls using List.reverseRecOn with
  | nil => simp [Undisturbed]
  | append_singleton calls call ih =>
    have early := ih about.left fun call mem => none call (List.mem_append_left _ mem)
    refine undisturbed_append.mpr ⟨early, ?_⟩
    exact (holds_after empty distinguished about.left early).perform_of_no_faults
      (by rwa [room_after]) (about.context call (by simp)) (none call (by simp))

/-- No file is left under the other name of a context when its license was saved. -/
theorem temporaryName_notMem_of_save {faults : Faults} {now : Instant} {context : String}
    {s : SignedLicense} {d' : Directory}
    (h : (save faults now context s).on d = (.ok (), d')) : temporaryName context ∉ d'.names := by
  obtain ⟨-, -, place, entry, written, -, -, rfl⟩ := save_eq_ok_iff.mp h
  have present : (d.insert place (licenseFile now s)).entries.isSome := by
    simpa [Directory.insert] using (Directory.place?_eq_some_iff.mp written).1.1
  have distinct := (fileName_ne_temporaryName context context).symm
  rw [names_renamed present]
  simp [distinct]

/-- **A store is a map.** Let a run begin in an empty directory, and let no change of it fail. If
the contexts of the run have digests of their own, and licenses are saved at times that a clock can
show, then every call of the run answers like a map from contexts to licenses: what is stored for a
context is the license of the last save with the time of this save as it is written, whatever bytes
the license consists of, or nothing if it was deleted or all were since. Times are written to the
same millisecond, and as they are if and only if they are valid. The directory holds the files of
the contexts that have a license and nothing else, and never a link.

In whatever directory and whatever fails, a call about a context changes nothing but what is under
two names, which consist of 64 hexadecimal digits and `.json` or `.tmp`, and what it reads is under
the first one, as long as neither is a link. When a license was saved, nothing is under the second
one. -/
theorem answers_like_map (empty : d.entries = some [])
    (distinguished : Context.Distinguished contexts) (about : IsAbout contexts calls)
    (undisturbed : Undisturbed d calls) :
    (∀ before call later, calls = before ++ call :: later →
      (call.perform (after before d)).1 = .ok (call.command.answer (contentsAfter before)) ∧
        ∀ name, (after before d).IsPlain name) ∧
    (∀ now : Instant, now.InRange →
      now.asWritten.toMillis = now.toMillis ∧ (now.asWritten = now ↔ now.IsValid)) ∧
    (∀ context kept, contentsAfter calls context = some kept ↔
      ∃ before faults later,
        calls = before ++ ⟨.save kept.savedAt context kept.license, faults⟩ :: later ∧
          ∀ call ∈ later, ¬ call.command.Settles context) ∧
    (∀ name, name ∈ (after calls d).names ↔
      ∃ context ∈ contexts, (contentsAfter calls context).isSome ∧ name = fileName context) ∧
    ∀ context : String,
      (∃ digits : List Char, digits.length = 64 ∧ (∀ c ∈ digits, Hex.IsDigit c) ∧
        fileName context = String.ofList digits ++ ".json" ∧
        temporaryName context = String.ofList digits ++ ".tmp") ∧
      (∀ (call : Call) (d : Directory), call.command.context? = some context →
        d.IsPlain (temporaryName context) →
          d.SameBut [fileName context, temporaryName context] (call.perform d).2) ∧
      (∀ d d' : Directory, d.IsPlain (fileName context) → d'.IsPlain (fileName context) →
        d.find? (fileName context) = d'.find? (fileName context) →
          load d context = load d' context ∧ signed d context = signed d' context) ∧
      ∀ faults now s (d d' : Directory), (save faults now context s).on d = (.ok (), d') →
        temporaryName context ∉ d'.names := by
  refine ⟨?_, fun now range => ⟨now.toMillis_asWritten, range.asWritten_eq_iff⟩,
    fun context kept => contentsAfter_eq_some_iff, fun name => ?_, fun context => ⟨?_, ?_, ?_, ?_⟩⟩
  · rintro before call later rfl
    have split : before ++ call :: later = (before ++ [call]) ++ later := by simp
    rw [split] at about undisturbed
    have undisturbed : Undisturbed d (before ++ [call]) := fun early other rest eq =>
      undisturbed early other (rest ++ later) (by rw [eq]; simp)
    obtain ⟨early, last⟩ := undisturbed_append.mp undisturbed
    have holds := holds_after empty distinguished about.left.left early
    exact ⟨(holds.perform distinguished (about.left.context call (by simp))
      (about.left.time call (by simp)) last).1, holds.plain⟩
  · exact (holds_after empty distinguished about undisturbed).mem_names_iff
  · refine ⟨(contextHash context).toList, length_contextHash context,
      fun c => Hex.isDigit_of_mem_encode, ?_, ?_⟩
    · rw [String.ofList_toList, fileName]
    · rw [String.ofList_toList, temporaryName]
  · exact fun call d about plain => sameBut_perform about plain
  · intro d d' plain plain' same
    have load : load d context = load d' context := by
      apply load_congr
      rw [Directory.at?_of_isPlain plain, Directory.at?_of_isPlain plain', same]
    exact ⟨load, by rw [signed, signed, load]⟩
  · exact fun faults now s d d' => temporaryName_notMem_of_save

/-- A run with two contexts, one of which is deleted, and with empty byte strings. The other one is
saved in a leap second that follows 23:56:04. -/
theorem answers_like_map_two_contexts :
    let load : Call := ⟨.load "b", .none⟩
    let signed : Call := ⟨.signed "a", .none⟩
    let before : List Call :=
      [⟨.save ⟨0, 0⟩ "a" ⟨[], [255]⟩, .none⟩, ⟨.save ⟨86164, 1333333333⟩ "b" ⟨[7], []⟩, .none⟩,
        ⟨.delete "a", .none⟩]
    (load.perform (after before .empty)).1 =
      .ok (.stored (some (.ofSigned ⟨[7], []⟩ ⟨86165, 333333333⟩))) ∧
    (signed.perform (after (before ++ [load]) .empty)).1 = .ok (.license none) := by
  intro load signed before
  have empty : Directory.empty.entries = some [] := rfl
  have room : 69 ≤ Directory.empty.room := by decide
  have distinguished : Context.Distinguished ["a", "b"] := by decide +kernel
  have about : IsAbout ["a", "b"] (before ++ [load, signed]) := by
    have first : (⟨0, 0⟩ : Instant).InRange := ⟨by decide, by decide⟩
    have second : (⟨86164, 1333333333⟩ : Instant).InRange := ⟨by decide, by decide⟩
    constructor
    · simp [before, load, signed, Command.context?]
    · simpa [before, load, signed, Command.time?] using ⟨first, second⟩
  have none : ∀ call ∈ before ++ [load, signed], call.faults = Faults.none := by
    simp [before, load, signed]
  have undisturbed := undisturbed_of_no_faults empty distinguished about room none
  obtain ⟨answers, -⟩ := answers_like_map empty distinguished about undisturbed
  have ofB : contentsAfter before "b" = some ⟨⟨[7], []⟩, ⟨86164, 1333333333⟩⟩ := by
    simp [contentsAfter, before, Command.update]
  have ofA : contentsAfter (before ++ [load]) "a" = Option.none := by
    simp [contentsAfter, before, load, Command.update]
  have loaded := (answers before load [signed] rfl).1
  have found := (answers (before ++ [load]) signed [] rfl).1
  rw [Command.answer, ofB] at loaded
  rw [Command.answer, ofA] at found
  exact ⟨loaded, found⟩

/-- What is loaded after a save in the empty directory. -/
theorem perform_load_after_save {now : Instant} (range : now.InRange) (context : String)
    (s : SignedLicense) :
    (Call.perform ⟨.load context, .none⟩ (after [⟨.save now context s, .none⟩] .empty)).1 =
      .ok (.stored (some (.ofSigned s now.asWritten))) := by
  have first : after [⟨.save now context s, .none⟩] .empty =
      saved Directory.empty now context s := by
    change (Call.perform ⟨.save now context s, .none⟩ .empty).2 = _
    rw [perform_save, snd_done, save_empty]
  rw [first, perform_load, load_saved_empty range]
  rfl

/-- Not every license is read with the time of its save: a clock may be given one in a leap second
that follows 23:56:04, and 23:56:05 is read. -/
theorem not_always_stored_at :
    ¬ ∀ (now : Instant) (context : String) (s : SignedLicense), now.OnClock Instant.InRange →
      (Call.perform ⟨.load context, .none⟩ (after [⟨.save now context s, .none⟩] .empty)).1 =
        .ok (.stored (some (.ofSigned s now))) := by
  intro same
  have range : Instant.InRange ⟨86164, 1333333333⟩ := ⟨by decide, by decide⟩
  have stored := same _ "a" ⟨[], []⟩ (.given range)
  rw [perform_load_after_save range, Except.ok.injEq, Answer.stored.injEq, Option.some.injEq]
    at stored
  have time := congrArg StoredLicense.storedAt stored
  exact absurd time (by decide)

end Run

end Licensing.Store
