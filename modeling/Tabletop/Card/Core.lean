/-
This file defines what all cards have, a name, abilities and a record of their changes, and the cards without a game
system.
-/

import Tabletop.Card.Entry
import Tabletop.Card.Names
import Tabletop.Instant

namespace Tabletop

/-- The version of new cards. -/
def cardVersion : Nat := 2

structure CardCore where
  name : String
  version : Nat
  abilities : Table String
  lastModified : Instant
  changes : List CardChange
deriving DecidableEq

namespace CardCore

def new (name : String) (now : Instant) : CardCore :=
  ⟨name, cardVersion, ∅, now, []⟩

/-- Adds a change to the record. -/
def push (core : CardCore) (now : Instant) (key : String) (value : ChangedValue) : CardCore :=
  { core with changes := core.changes ++ [⟨core.name, key, value⟩], lastModified := now }

/-- Adds a change of an entry to the record, unless the value stays the same. -/
def record (core : CardCore) (now : Instant) (key : String) (old : Option Int) (new : Int) :
    CardCore :=
  if old = some new then core else core.push now key (.entry old new)

/-- The stored ability with a name. -/
def ability? (core : CardCore) (input : String) : Option Ability :=
  (core.abilities.lookup? input).map fun (key, expression) => ⟨input, key, expression, false⟩

/-- The key under which an ability is written: the first one up to ASCII case. -/
def abilityKey (core : CardCore) (name : String) : String :=
  (core.abilities.firstKey? fun key => Text.sameUpToAsciiCase key name).getD name

/-- Stores an ability. It tells whether something changed. -/
def setAbility (core : CardCore) (now : Instant) (name expression : String) : CardCore × Bool :=
  let key := core.abilityKey name
  let old := core.abilities[key]?
  if old = some expression then (core, false)
  else
    ({ core with abilities := core.abilities.insert key expression }.push now key
      (.ability old expression), true)

end CardCore

/-- Numbers by their names. -/
abbrev Values := Table Int

/-- A list of entries in one line of text. -/
def entriesText (entries : List (String × String)) : String :=
  " ".intercalate (entries.map fun (key, value) => key ++ ":" ++ value)

/-- The entries of a table of numbers. -/
def valueEntries (values : Values) : List (String × String) :=
  values.toList.map fun (key, value) => (key, Number.intText value)

/-- A line of text with a label, unless there are no entries. -/
def labelledLine (label : String) (entries : List (String × String)) : List String :=
  if entries.isEmpty then [] else [label ++ ": " ++ entriesText entries]

structure GeneralCard where
  core : CardCore
  skills : Values
deriving DecidableEq

namespace GeneralCard

def new (name : String) (now : Instant) : GeneralCard :=
  ⟨.new name now, ∅⟩

def entryOf? (card : GeneralCard) (input : String) : Option Entry :=
  (card.skills.lookup? input).map fun (key, value) => .stored input key value .skills

/-- Writes a number. It tells whether the stored number changed. -/
def setEntry (card : GeneralCard) (now : Instant) (input : String) (value : Int) :
    GeneralCard × Bool :=
  let key := card.skills.keyFor input
  let old := card.skills[key]?
  ({ core := card.core.record now key old value, skills := card.skills.insert key value },
    old ≠ some value)

def summary (card : GeneralCard) : String :=
  let title := card.core.name ++ " (general)"
  if card.skills.isEmpty then title else title ++ "\n" ++ entriesText (valueEntries card.skills)

end GeneralCard

end Tabletop
