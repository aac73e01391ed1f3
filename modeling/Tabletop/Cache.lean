/-
This file defines caches that forget what was not used for the longest time.
-/

import Tabletop.Text.Cut

namespace Tabletop

/-- Values by the texts they were made from, from the longest unused to the latest used. -/
structure Cache (α : Type) where
  capacity : Nat
  /-- The bytes of the budget that the entry of a text takes up. -/
  bytesOf : String → Nat
  entries : List (String × α)

namespace Cache

variable {α ε : Type}

/-- The bytes of budget for each entry of the capacity. -/
def entryBytes : Nat := 4096

/-- The bytes of an entry besides its text. -/
def overheadBytes : Nat := 56

/-- The number of entries that a process-wide cache holds. -/
def standardCapacity : Nat := 50

/-- The bytes of an entry: those of its text and the ones besides. -/
def standardBytes (key : String) : Nat :=
  overheadBytes + Text.byteLength key.toList

/-- An empty cache for entries of some sizes. It has room for at least one entry. -/
def newWith (bytesOf : String → Nat) (capacity : Nat) : Cache α :=
  ⟨max capacity 1, bytesOf, []⟩

/-- An empty cache for entries of the standard sizes. -/
def new (capacity : Nat) : Cache α :=
  newWith standardBytes capacity

def budget (cache : Cache α) : Nat :=
  cache.capacity * entryBytes

def find? (cache : Cache α) (key : String) : Option α :=
  (cache.entries.find? (·.1 == key)).map (·.2)

def without (cache : Cache α) (key : String) : Cache α :=
  { cache with entries := cache.entries.filter (·.1 != key) }

/-- The bytes that texts take up together. -/
def bytes (bytesOf : String → Nat) (keys : List String) : Nat :=
  Number.total (keys.map bytesOf)

/-- Drops entries from the front until the others take at most `limit` bytes. -/
def dropToBytes (bytesOf : String → Nat) (limit : Nat) : List (String × α) → List (String × α)
  | [] => []
  | entry :: rest =>
    if bytes bytesOf ((entry :: rest).map (·.1)) ≤ limit then entry :: rest
    else dropToBytes bytesOf limit rest

/-- Adds a new entry as the latest used. One that is larger than the budget is not kept. -/
def insert (cache : Cache α) (key : String) (value : α) : Cache α :=
  if cache.budget < cache.bytesOf key then cache
  else
    let kept := dropToBytes cache.bytesOf (cache.budget - cache.bytesOf key) cache.entries
    let entries := kept ++ [(key, value)]
    { cache with entries := entries.drop (entries.length - cache.capacity) }

/-- The kept value of a text, or else the value made from it, which is then kept. -/
def getOrCompile (cache : Cache α) (key : String) (compile : String → Except ε α) :
    Except ε α × Cache α :=
  match cache.find? key with
  | some value => (.ok value, { cache with entries := (cache.without key).entries ++ [(key, value)] })
  | none =>
    match compile key with
    | .ok value => (.ok value, cache.insert key value)
    | .error error => (.error error, cache)

end Cache

end Tabletop
