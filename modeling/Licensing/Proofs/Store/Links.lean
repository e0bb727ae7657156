import Licensing.Store.Directory
import Mathlib.Data.List.Basic
import Mathlib.Logic.Relation

/-!
# Where links lead in a directory

What is read under a name depends on all names past which links lead from there, and on no others.
So it stays when a directory changes under other names only.

## Main definitions

* `Directory.LinksTo`, `Directory.IsPlain` — a name is a link to another one, and it is no link.
* `Directory.Passes`, `Directory.Leads` — links lead from a name past another one, and to it.
* `Directory.SameBut` — two directories differ at most in what is under some names.

## Main results

* `Directory.follow?_eq_some_iff` — where links are followed to.
* `Directory.Leads.of_written` — links lead where they led before if nothing on their way changes.
* `Directory.SameBut.at?_eq` — what is read under a name stays if no link leads past a name that
  changes.
* `Directory.place?_eq_some_iff` — where a file is written.
-/

namespace Licensing

namespace Table

variable {α : Type}

theorem mem_names_iff {table : Table α} {name : String} :
    name ∈ table.names ↔ (table.find? name).isSome := by
  induction table with
  | nil => simp [names, find?]
  | cons entry table ih =>
    rw [find?_cons]
    by_cases h : name = entry.1
    · simp [names, h]
    · simpa [names, h] using ih

theorem names_erase (table : Table α) (name : String) :
    (table.erase name).names = table.names.filter (· != name) := by
  rw [erase, names, names, List.filter_map]
  rfl

theorem names_insert (table : Table α) (name : String) (value : α) :
    (table.insert name value).names = table.names.filter (· != name) ++ [name] := by
  rw [insert, names, List.map_append, ← names, names_erase]
  rfl

end Table

namespace Directory

theorem names_erase (d : Directory) (name : String) :
    (d.erase name).names = d.names.filter (· != name) := by
  rw [names, erase, names, List.filter_filter]
  cases d.entries with
  | none => rfl
  | some table =>
    simp only [Option.map_some, Option.getD_some, Table.names_erase, List.filter_filter,
      Bool.and_comm]

theorem names_insert {d : Directory} (present : d.entries.isSome) {name : String}
    (inside : isInside name = true) (entry : Entry) :
    (d.insert name entry).names = d.names.filter (· != name) ++ [name] := by
  obtain ⟨table, h⟩ := Option.isSome_iff_exists.mp present
  rw [names, insert, names, h]
  simp only [Option.map_some, Option.getD_some, Table.names_insert, List.filter_append,
    List.filter_filter, Bool.and_comm, List.filter_cons_of_pos inside, List.filter_nil]

theorem under?_of_find? {d : Directory} {name : String} {entry : Entry}
    (h : d.find? name = some entry) : d.under? name = some entry := by
  unfold find? at h
  split at h
  · exact h
  · cases h

theorem isRemovable_iff {d : Directory} {name : String} :
    d.isRemovable name ↔ ∃ entry, d.find? name = some entry ∧ entry ≠ .folder := by
  unfold isRemovable
  split <;> simp_all

theorem isRemovable_erase {d : Directory} {name other : String} :
    (d.erase name).isRemovable other ↔ other ≠ name ∧ d.isRemovable other := by
  simp only [isRemovable_iff, find?_erase, Option.ite_none_left_eq_some]
  tauto

/-- Nothing is in a directory without entries. -/
theorem under?_of_entries_nil {d : Directory} (h : d.entries = some []) (name : String) :
    d.under? name = none := by
  rw [under?, h]
  rfl

/-- What is in a directory is under one of its names. -/
theorem mem_names_of_under? {d : Directory} {name : String} (inside : isInside name = true)
    {entry : Entry} (h : d.under? name = some entry) : name ∈ d.names := by
  obtain ⟨table, present, found⟩ := Option.bind_eq_some_iff.mp h
  rw [names, present]
  exact List.mem_filter.mpr ⟨Table.mem_names_iff.mpr (Option.isSome_of_eq_some found), inside⟩

/-! ### Links -/

/-- A name is a link to another one. -/
def LinksTo (d : Directory) (name target : String) : Prop :=
  d.under? name = some (.link target)

/-- Links lead from a name past another one, or it is the name itself. -/
def Passes (d : Directory) : String → String → Prop :=
  Relation.ReflTransGen d.LinksTo

/-- A name is no link. -/
def IsPlain (d : Directory) (name : String) : Prop :=
  ∀ target, ¬ d.LinksTo name target

/-- Up to `limit` links lead from a name to one that is no link, one after the other. -/
inductive Leads (d : Directory) : (limit : Nat) → (name last : String) → Prop
  | here {limit : Nat} {name : String} (plain : d.IsPlain name) : Leads d limit name name
  | on {limit : Nat} {name target last : String} (link : d.LinksTo name target)
      (somewhere : (isInside target && !isName target) = false)
      (rest : Leads d limit target last) : Leads d (limit + 1) name last

section Links

variable {d after : Directory} {name other last target : String} {limit : Nat}

/-- There is one name to which a link leads. -/
theorem LinksTo.unique (h : d.LinksTo name target) (h' : d.LinksTo name other) :
    other = target := by
  have same := h'.symm.trans h
  simpa using same

theorem isPlain_of_under?_eq_none (h : d.under? name = none) : d.IsPlain name :=
  fun _ link => nomatch h.symm.trans link

theorem isPlain_of_under?_eq_file {content : Bytes} (h : d.under? name = some (.file content)) :
    d.IsPlain name :=
  fun _ link => nomatch h.symm.trans link

theorem IsPlain.erase (plain : d.IsPlain name) (other : String) :
    (d.erase other).IsPlain name := by
  intro target link
  rw [LinksTo, under?_erase, Option.ite_none_left_eq_some] at link
  exact plain target link.2

theorem IsPlain.insert (plain : d.IsPlain name) (present : d.entries.isSome) (other : String)
    (content : Bytes) : (d.insert other (.file content)).IsPlain name := by
  intro target link
  rw [LinksTo, under?_insert present] at link
  split at link
  · cases link
  · exact plain target link

theorem follow?_of_isPlain (plain : d.IsPlain name) (limit : Nat) :
    d.follow? limit name = some name := by
  unfold follow?
  split
  · next link => exact absurd link (plain _)
  · next link => exact absurd link (plain _)
  · rfl

theorem follow?_zero_of_linksTo (link : d.LinksTo name target) : d.follow? 0 name = none := by
  unfold LinksTo at link
  unfold follow?
  rw [link]

theorem follow?_succ_of_linksTo (link : d.LinksTo name target) (limit : Nat) :
    d.follow? (limit + 1) name =
      if isInside target && !isName target then none else d.follow? limit target := by
  unfold LinksTo at link
  rw [follow?.eq_def, link]

theorem isPlain_or_linksTo (d : Directory) (name : String) :
    d.IsPlain name ∨ ∃ target, d.LinksTo name target := by
  rw [IsPlain, ← not_exists]
  exact (em _).symm

/-- What a link leads past, besides the name itself. -/
theorem passes_iff_of_linksTo (link : d.LinksTo name target) :
    d.Passes name other ↔ other = name ∨ d.Passes target other := by
  constructor
  · intro h
    rcases Relation.ReflTransGen.cases_head h with same | ⟨_, link', later⟩
    · exact .inl same.symm
    · exact .inr (link.unique link' ▸ later)
  · rintro (rfl | later)
    · exact .refl
    · exact .head link later

/-- Links are followed one by one. -/
theorem follow?_eq_some_iff : d.follow? limit name = some last ↔ d.Leads limit name last := by
  constructor
  · intro h
    induction limit generalizing name with
    | zero =>
      obtain plain | ⟨target, link⟩ := d.isPlain_or_linksTo name
      · rw [follow?_of_isPlain plain] at h
        cases h
        exact .here plain
      · rw [follow?_zero_of_linksTo link] at h
        cases h
    | succ limit ih =>
      obtain plain | ⟨target, link⟩ := d.isPlain_or_linksTo name
      · rw [follow?_of_isPlain plain] at h
        cases h
        exact .here plain
      · rw [follow?_succ_of_linksTo link, Option.ite_none_left_eq_some] at h
        exact .on link (Bool.eq_false_iff.mpr h.1) (ih h.2)
  · intro h
    induction h with
    | here plain => exact follow?_of_isPlain plain _
    | on link somewhere _ ih => rw [follow?_succ_of_linksTo link, somewhere, ih]; rfl

/-- Links lead past names only that they pass. -/
theorem Leads.passes (h : d.Leads limit name last) : d.Passes name last := by
  induction h with
  | here => exact .refl
  | on link _ _ ih => exact .head link ih

end Links

/-! ### Changes under some names -/

/-- Two directories differ at most in what is under some names. -/
structure SameBut (names : List String) (d after : Directory) : Prop where
  room : after.room = d.room
  entries : ∀ name, name ∉ names → after.entries.map (·.find? name) = d.entries.map (·.find? name)

variable {names others : List String} {d after last : Directory}

theorem SameBut.refl (names : List String) (d : Directory) : SameBut names d d :=
  ⟨rfl, fun _ _ => rfl⟩

theorem SameBut.trans (h : SameBut names d after) (h' : SameBut names after last) :
    SameBut names d last :=
  ⟨h'.room.trans h.room, fun name free => (h'.entries name free).trans (h.entries name free)⟩

theorem SameBut.mono (h : SameBut names d after) (more : names ⊆ others) :
    SameBut others d after :=
  ⟨h.room, fun name free => h.entries name fun mem => free (more mem)⟩

theorem sameBut_erase (d : Directory) (name : String) : SameBut [name] d (d.erase name) := by
  refine ⟨rfl, fun other free => ?_⟩
  rw [List.mem_singleton] at free
  simp [erase, Function.comp_def, Table.find?_erase, free]

theorem sameBut_insert (d : Directory) (name : String) (entry : Entry) :
    SameBut [name] d (d.insert name entry) := by
  refine ⟨rfl, fun other free => ?_⟩
  rw [List.mem_singleton] at free
  simp [insert, Function.comp_def, Table.find?_insert, free]

/-! ### What is read and where is written -/

theorem SameBut.under?_eq (h : SameBut names d after) {name : String} (free : name ∉ names) :
    after.under? name = d.under? name := by
  have entries := congrArg (·.bind id) (h.entries name free)
  simp only [Option.bind_map, Function.id_comp] at entries
  exact entries

theorem SameBut.reaches_eq (h : SameBut names d after) (name : String) :
    after.reaches name = d.reaches name := by
  rw [reaches, reaches, h.room]

/-- Links are followed as before if they lead past no name that changes. -/
theorem SameBut.follow?_eq (h : SameBut names d after) {name : String}
    (free : ∀ other, d.Passes name other → other ∉ names) (limit : Nat) :
    after.follow? limit name = d.follow? limit name := by
  have first := h.under?_eq (free name .refl)
  obtain plain | ⟨target, link⟩ := d.isPlain_or_linksTo name
  · have plain' : after.IsPlain name := fun target link => plain target (first.symm.trans link)
    rw [follow?_of_isPlain plain, follow?_of_isPlain plain']
  · have link' : after.LinksTo name target := first.trans link
    cases limit with
    | zero => rw [follow?_zero_of_linksTo link, follow?_zero_of_linksTo link']
    | succ limit =>
      rw [follow?_succ_of_linksTo link, follow?_succ_of_linksTo link',
        h.follow?_eq (fun other later => free other (.head link later)) limit]

/-- What is read under a name stays if no link leads past a name that changes. -/
theorem SameBut.at?_eq (h : SameBut names d after) {name : String}
    (free : ∀ other, d.Passes name other → other ∉ names) : after.at? name = d.at? name := by
  rw [at?, at?, h.reaches_eq, h.follow?_eq free]
  cases followed : d.follow? linkLimit name with
  | none => rfl
  | some last =>
    have passed := (follow?_eq_some_iff.mp followed).passes
    rw [Option.bind_some, Option.bind_some, h.under?_eq (free last passed)]

theorem at?_of_isPlain {name : String} (plain : d.IsPlain name) : d.at? name = d.find? name := by
  rw [at?, follow?_of_isPlain plain, find?]
  rfl

/-- A file that is under a name is what is read there. -/
theorem at?_of_find?_eq_file {name : String} {content : Bytes}
    (h : d.find? name = some (.file content)) : d.at? name = some (.file content) := by
  rw [at?_of_isPlain (isPlain_of_under?_eq_file (under?_of_find? h)), h]

theorem place?_eq_some_iff {name place : String} :
    d.place? name = some place ↔
      (d.entries.isSome ∧ d.reaches name) ∧ d.Leads linkLimit name place ∧
        d.under? place ≠ some .folder := by
  rw [place?, ← follow?_eq_some_iff]
  split
  · next there =>
    rw [Bool.and_eq_true] at there
    simp [there, Option.filter_eq_some_iff]
  · next gone =>
    rw [Bool.and_eq_true] at gone
    simp [gone]

/-- A file is written under the name itself if this is no link. -/
theorem place?_eq_some_iff_of_isPlain {name place : String} (plain : d.IsPlain name) :
    d.place? name = some place ↔
      place = name ∧ (d.entries.isSome ∧ d.reaches name) ∧ d.under? name ≠ some .folder := by
  rw [place?_eq_some_iff, ← follow?_eq_some_iff, follow?_of_isPlain plain, Option.some.injEq]
  constructor
  · rintro ⟨there, rfl, free⟩
    exact ⟨rfl, there, free⟩
  · rintro ⟨rfl, there, free⟩
    exact ⟨there, rfl, free⟩

theorem find?_foldl_erase (names : List String) (d : Directory) (other : String) :
    (names.foldl erase d).find? other = if other ∈ names then none else d.find? other := by
  induction names generalizing d with
  | nil => simp
  | cons name names ih =>
    rw [List.foldl_cons, ih, find?_erase]
    by_cases first : other = name
    · simp [first]
    · simp [first]

theorem names_foldl_erase (names : List String) (d : Directory) :
    (names.foldl erase d).names = d.names.filter (· ∉ names) := by
  induction names generalizing d with
  | nil => simp
  | cons name names ih =>
    rw [List.foldl_cons, ih, names_erase, List.filter_filter]
    congr 1
    funext other
    by_cases first : other = name <;> simp [first]

theorem IsPlain.foldl_erase {name : String} (plain : d.IsPlain name) (names : List String) :
    (names.foldl Directory.erase d).IsPlain name := by
  induction names generalizing d with
  | nil => exact plain
  | cons first names ih => exact ih (plain.erase first)

theorem sameBut_foldl_erase (names : List String) (d : Directory) :
    d.SameBut names (names.foldl erase d) := by
  induction names generalizing d with
  | nil => exact .refl _ d
  | cons name names ih =>
    exact ((d.sameBut_erase name).mono (by simp)).trans ((ih _).mono (by simp))

theorem isSome_entries_foldl_erase (names : List String) (d : Directory) :
    (names.foldl erase d).entries.isSome = d.entries.isSome := by
  induction names generalizing d with
  | nil => rfl
  | cons name names ih =>
    rw [List.foldl_cons, ih]
    simp [erase]

end Directory

end Licensing
