import HazeServer.Table

/-! # Names in tables

Which names a table has after each operation, and in which order; and the part of a table that is about
one name, which no operation on another name touches.
-/

namespace HazeServer

namespace Table

variable {α : Type}

/-- Earlier entries of a name hide later ones. -/
theorem getEntry_append (name : String) (first second : List (String × α)) :
    getEntry name (first ++ second) = (getEntry name first).or (getEntry name second) := by
  induction first with
  | nil => simp [getEntry]
  | cons entry rest step =>
    by_cases same : entry.1 = name
    · simp [getEntry, same]
    · simp [getEntry, same, step]

section Names

theorem mem_names {table : Table α} {name : String} :
    name ∈ table.names ↔ (table.get? name).isSome := by
  unfold names get?
  induction table.entries with
  | nil => simp [getEntry]
  | cons entry rest step =>
    simp only [List.map_cons, List.mem_cons, step, getEntry]
    split
    · next same => simp [same]
    · next other => simp [Ne.symm other]

/-- A name that is present keeps its place, and a new one goes last. -/
theorem names_set (table : Table α) (name : String) (value : α) :
    (table.set name value).names =
      if name ∈ table.names then table.names else table.names ++ [name] := by
  unfold names set
  simp only
  induction table.entries with
  | nil => simp [setEntry]
  | cons entry rest step =>
    unfold setEntry
    split
    · next same => simp [same]
    · next other =>
      rw [List.map_cons, step, List.map_cons]
      simp only [List.mem_cons, Ne.symm other, false_or]
      split <;> rfl

theorem names_erase (table : Table α) (name : String) :
    (table.erase name).names = table.names.filter (· ≠ name) := by
  unfold names erase
  rw [List.filter_map]
  rfl

/-- A table in which no name has a value is empty. -/
theorem eq_empty {table : Table α} (absent : ∀ name, table.get? name = none) : table = .empty := by
  obtain ⟨entries⟩ := table
  cases entries with
  | nil => rfl
  | cons entry rest =>
    have held := absent entry.1
    simp [get?, getEntry] at held

end Names

section Setting

theorem set_set (table : Table α) (name : String) (earlier later : α) :
    (table.set name earlier).set name later = table.set name later := by
  unfold set
  simp only [mk.injEq]
  induction table.entries with
  | nil => simp [setEntry]
  | cons entry rest step =>
    by_cases same : entry.1 = name
    · simp [setEntry, same]
    · simp [setEntry, same, step]

theorem set_of_get? {table : Table α} {name : String} {value : α} (held : table.get? name = some value) :
    table.set name value = table := by
  obtain ⟨entries⟩ := table
  unfold set
  simp only [get?, mk.injEq] at held ⊢
  induction entries with
  | nil => cases held
  | cons entry rest step =>
    obtain ⟨title, found⟩ := entry
    by_cases same : title = name
    · simp_all [setEntry, getEntry]
    · simp_all [setEntry, getEntry]

end Setting

section Only

/-- The entries of a table for one name. -/
def only (table : Table α) (name : String) : Table α :=
  ⟨table.entries.filter (·.1 = name)⟩

@[simp] theorem only_only (table : Table α) (name : String) :
    (table.only name).only name = table.only name := by
  simp [only]

@[simp] theorem get?_only (table : Table α) (name : String) :
    (table.only name).get? name = table.get? name := by
  unfold only get?
  simp only
  induction table.entries with
  | nil => rfl
  | cons entry rest step =>
    by_cases same : entry.1 = name
    · simp [getEntry, same]
    · simp [getEntry, same, step]

theorem names_only (table : Table α) (name : String) :
    (table.only name).names = table.names.filter (· = name) := by
  unfold names only
  rw [List.filter_map]
  rfl

theorem only_set (table : Table α) (name : String) (value : α) :
    (table.set name value).only name = (table.only name).set name value := by
  unfold only set
  simp only [mk.injEq]
  induction table.entries with
  | nil => simp [setEntry]
  | cons entry rest step =>
    by_cases same : entry.1 = name
    · simp [setEntry, same]
    · simp [setEntry, same, step]

theorem only_set_of_ne (table : Table α) {name other : String} (value : α) (apart : name ≠ other) :
    (table.set name value).only other = table.only other := by
  unfold only set
  simp only [mk.injEq]
  induction table.entries with
  | nil => simp [setEntry, apart]
  | cons entry rest step =>
    by_cases same : entry.1 = name
    · simp [setEntry, same, apart]
    · simp only [setEntry, same, if_false, List.filter_cons, step]

theorem only_erase (table : Table α) (name other : String) :
    (table.erase name).only other = (table.only other).erase name := by
  simp only [only, erase, List.filter_filter, Bool.and_comm]

theorem only_erase_of_ne (table : Table α) {name other : String} (apart : name ≠ other) :
    (table.erase name).only other = table.only other := by
  simp only [only, erase, List.filter_filter, mk.injEq]
  apply List.filter_congr
  intro entry _
  by_cases here : entry.1 = other
  · simp [here, Ne.symm apart]
  · simp [here]

end Only

end Table

end HazeServer
