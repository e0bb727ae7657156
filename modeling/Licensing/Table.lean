/-!
# Tables

Values under names, in the order in which they came. A name that gets a new value moves to the end.

## Main definitions

* `Table` — the names with their values.
* `Table.find?`, `Table.insert`, `Table.erase` — looking up, setting and removing a value.

## Main results

* `Table.find?_insert`, `Table.find?_erase` — what is under a name after a change.
-/

namespace Licensing

/-- Names with their values, in the order in which they came. -/
abbrev Table (α : Type) : Type :=
  List (String × α)

namespace Table

variable {α : Type}

/-- The value under a name. -/
def find? (table : Table α) (name : String) : Option α :=
  table.lookup name

/-- The table without a name. -/
def erase (table : Table α) (name : String) : Table α :=
  table.filter (·.1 != name)

/-- The table with a value under a name, in the place of an earlier one. -/
def insert (table : Table α) (name : String) (value : α) : Table α :=
  table.erase name ++ [(name, value)]

/-- The names in order. -/
def names (table : Table α) : List String :=
  table.map (·.1)

theorem find?_cons (entry : String × α) (table : Table α) (name : String) :
    find? (entry :: table) name = if name = entry.1 then some entry.2 else table.find? name := by
  obtain ⟨other, value⟩ := entry
  by_cases h : name = other
  · subst h; simp [find?]
  · simp [find?, List.lookup_cons, beq_eq_false_iff_ne.mpr h, h]

theorem find?_append (table later : Table α) (name : String) :
    find? (table ++ later) name = (table.find? name).or (later.find? name) := by
  induction table with
  | nil => rfl
  | cons entry table ih =>
    rw [List.cons_append, find?_cons, find?_cons, ih]
    split <;> rfl

/-- Removing a name leaves nothing under it and changes nothing under another. -/
theorem find?_erase (table : Table α) (name other : String) :
    (table.erase name).find? other = if other = name then none else table.find? other := by
  induction table with
  | nil => simp [erase, find?]
  | cons entry table ih =>
    by_cases h : entry.1 = name
    · have dropped : erase (entry :: table) name = erase table name := by simp [erase, h]
      rw [dropped, ih, find?_cons, h]
      split <;> rfl
    · have stays : erase (entry :: table) name = entry :: erase table name := by
        simp [erase, h]
      rw [stays, find?_cons, find?_cons, ih]
      by_cases hn : other = entry.1
      · simp [hn, h]
      · simp [hn]

/-- Setting a value puts it under its name and changes nothing under another. -/
theorem find?_insert (table : Table α) (name other : String) (value : α) :
    (table.insert name value).find? other =
      if other = name then some value else table.find? other := by
  rw [insert, find?_append, find?_erase, find?_cons]
  by_cases h : other = name
  · simp [h]
  · simp [h, find?]

end Table

end Licensing
