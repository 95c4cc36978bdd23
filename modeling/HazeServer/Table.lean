/-! # Tables in insertion order

A table maps names to values and remembers the order in which its names were first entered.
Setting a name that is present keeps its place; a name that was removed and set again goes last.
-/

namespace HazeServer

/-- Values by name, in the order in which the names were entered. -/
structure Table (α : Type) where
  entries : List (String × α) := []
  deriving Repr, DecidableEq

namespace Table

variable {α : Type}

/-- The value of the first entry of a name. -/
def getEntry (name : String) : List (String × α) → Option α
  | [] => none
  | entry :: rest => if entry.1 = name then some entry.2 else getEntry name rest

/-- Replace the value of the first entry of a name, or add an entry at the end. -/
def setEntry (name : String) (value : α) : List (String × α) → List (String × α)
  | [] => [(name, value)]
  | entry :: rest =>
      if entry.1 = name then (name, value) :: rest else entry :: setEntry name value rest

/-- The table without entries. -/
def empty : Table α := ⟨[]⟩

/-- The value entered under a name. -/
def get? (table : Table α) (name : String) : Option α :=
  getEntry name table.entries

/-- Whether a name is present. -/
def contains (table : Table α) (name : String) : Bool :=
  (table.get? name).isSome

/-- The names, in the order they were entered. -/
def names (table : Table α) : List String :=
  table.entries.map (·.1)

/-- The values, in the order of their names. -/
def values (table : Table α) : List α :=
  table.entries.map (·.2)

/-- The number of names. -/
def size (table : Table α) : Nat :=
  table.entries.length

/-- Enter a value under a name; a name that is present keeps its place. -/
def set (table : Table α) (name : String) (value : α) : Table α :=
  ⟨setEntry name value table.entries⟩

/-- Remove a name. -/
def erase (table : Table α) (name : String) : Table α :=
  ⟨table.entries.filter fun entry => entry.1 ≠ name⟩

/-- The table in which each of the given values is entered in turn. -/
def ofList (entries : List (String × α)) : Table α :=
  entries.foldl (fun table entry => table.set entry.1 entry.2) empty

@[simp] theorem get?_empty (name : String) : (empty : Table α).get? name = none := rfl

theorem getEntry_setEntry (name other : String) (value : α) (entries : List (String × α)) :
    getEntry other (setEntry name value entries) =
      if other = name then some value else getEntry other entries := by
  induction entries with
  | nil => simp [setEntry, getEntry, eq_comm]
  | cons entry rest step => grind [setEntry, getEntry]

/-- Setting a name changes the value of that name only. -/
@[simp] theorem get?_set (table : Table α) (name other : String) (value : α) :
    (table.set name value).get? other = if other = name then some value else table.get? other :=
  getEntry_setEntry name other value table.entries

theorem getEntry_filter (name other : String) (entries : List (String × α)) :
    getEntry other (entries.filter fun entry => entry.1 ≠ name) =
      if other = name then none else getEntry other entries := by
  induction entries with
  | nil => simp [getEntry]
  | cons entry rest step => grind [getEntry]

/-- Removing a name changes the value of that name only. -/
@[simp] theorem get?_erase (table : Table α) (name other : String) :
    (table.erase name).get? other = if other = name then none else table.get? other :=
  getEntry_filter name other table.entries

end Table

end HazeServer
