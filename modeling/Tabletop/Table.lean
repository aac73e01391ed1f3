/-
This file defines maps from names to values.
-/

import Std.Data.ExtTreeMap

namespace Tabletop

/-- A finite map from names, in the order of the names. -/
abbrev Table (α : Type) := Std.ExtTreeMap String α

namespace Table

variable {α : Type}

/-- The first key that satisfies the test. -/
def firstKey? (table : Table α) (test : String → Bool) : Option String :=
  table.keys.find? test

/-- The table of a list of pairs. The last pair with a key counts. -/
def ofPairs (pairs : List (String × α)) : Table α :=
  pairs.foldl (fun table (key, value) => table.insert key value) ∅

/-- Writing under a key changes what is kept under that key alone. -/
theorem get_insert (table : Table α) (key name : String) (value : α) :
    (table.insert key value)[name]? = if key = name then some value else table[name]? := by
  rw [Std.ExtTreeMap.getElem?_insert]
  simp only [Std.LawfulEqCmp.compare_eq_iff_eq]

theorem insert_insert (table : Table α) (key : String) (first last : α) :
    (table.insert key first).insert key last = table.insert key last := by
  apply Std.ExtTreeMap.ext_getElem?
  intro name
  simp only [get_insert]
  split <;> rfl

theorem get_erase (table : Table α) (key name : String) :
    (table.erase key)[name]? = if key = name then none else table[name]? := by
  rw [Std.ExtTreeMap.getElem?_erase]
  simp only [Std.LawfulEqCmp.compare_eq_iff_eq]

/-- A table stays the same exactly if the value that is written stood there already. -/
theorem insert_eq_iff (table : Table α) (key : String) (value : α) :
    table.insert key value = table ↔ table[key]? = some value := by
  constructor
  · intro same
    rw [← same, get_insert, if_pos rfl]
  · intro kept
    apply Std.ExtTreeMap.ext_getElem?
    intro name
    rw [get_insert]
    split
    · next same => rw [← same, kept]
    · rfl

end Table

end Tabletop
