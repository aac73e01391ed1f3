/-
This file defines cards of all game systems, and the title and rows into which their summaries are split.
-/

import Tabletop.Card.Coc
import Tabletop.Card.Dnd
import Tabletop.Text.Cut

namespace Tabletop

inductive Card where
  | general (card : GeneralCard)
  | coc (card : CocCard)
  | dnd (card : DndCard)
deriving DecidableEq

namespace Card

/-- An empty card. -/
def new (kind : CardKind) (name : String) (now : Instant) : Card :=
  match kind with
  | .general => .general (.new name now)
  | .coc => .coc (.new name now)
  | .dnd => .dnd (.new name now)

def kind : Card → CardKind
  | .general _ => .general
  | .coc _ => .coc
  | .dnd _ => .dnd

def core : Card → CardCore
  | .general card => card.core
  | .coc card => card.core
  | .dnd card => card.core

def setCore (core : CardCore) : Card → Card
  | .general card => .general { card with core := core }
  | .coc card => .coc { card with core := core }
  | .dnd card => .dnd { card with core := core }

@[simp] theorem setCore_core (card : Card) (core : CardCore) : (card.setCore core).core = core := by
  cases card <;> rfl

def name (card : Card) : String :=
  card.core.name

/-- The entry of a name. -/
def entryOf? (card : Card) (input : String) : Option Entry :=
  match card with
  | .general card => card.entryOf? input
  | .coc card => card.entryOf? input
  | .dnd card => card.entryOf? input

/-- Writes a number under a name. It tells whether a stored number changed. -/
def setEntry (card : Card) (now : Instant) (input : String) (value : Int) :
    Except Fault (Card × Bool) :=
  match card with
  | .general card =>
    let (card, changed) := card.setEntry now input value
    .ok (.general card, changed)
  | .coc card =>
    let (card, changed) := card.setEntry now input value
    .ok (.coc card, changed)
  | .dnd card => (card.setEntry now input value).map fun (card, changed) => (.dnd card, changed)

/-- The ability of a name. -/
def ability? (card : Card) (input : String) : Option Ability :=
  match card with
  | .coc card => card.ability? input
  | other => other.core.ability? input

/-- Stores an ability. It tells whether something changed. -/
def setAbility (card : Card) (now : Instant) (name expression : String) : Card × Bool :=
  let (core, changed) := card.core.setAbility now name expression
  (card.setCore core, changed)

/-- The synonyms of the key behind a name. -/
def namesOf (card : Card) (name : String) : List String :=
  match card with
  | .general _ => []
  | .coc _ => CocCard.synonyms.namesOf (CocCard.synonyms.keyOf name)
  | .dnd _ => DndCard.synonyms.namesOf (DndCard.synonyms.keyOf name)

def summary : Card → String
  | .general card => card.summary
  | .coc card => card.summary
  | .dnd card => card.summary

/-- Marks a skill for a growth check. Only one game system has such marks. -/
def markGrowth (card : Card) (now : Instant) (key : String) : Card × Bool :=
  match card with
  | .coc card =>
    let (card, changed) := card.markGrowth now key
    (.coc card, changed)
  | other => (other, false)

/-- Takes growth marks away, all of them if none are named. -/
def clearGrowth (card : Card) (now : Instant) (keys : List String) : Card × Bool :=
  match card with
  | .coc card =>
    let (card, changed) := card.clearGrowth now keys
    (.coc card, changed)
  | other => (other, false)

/-- The card with an empty record of changes. -/
def withoutChanges (card : Card) : Card :=
  card.setCore { card.core with changes := [] }

@[simp] theorem withoutChanges_name (card : Card) : card.withoutChanges.name = card.name := by
  simp only [name, withoutChanges, setCore_core]

@[simp] theorem new_name (kind : CardKind) (name : String) (now : Instant) :
    (new kind name now).name = name := by
  cases kind <;> rfl

/-- A card is of a version that is not known yet. -/
structure UnknownVersion where
  found : Nat
deriving DecidableEq, Repr

/-- Brings a card up to date. It tells whether there was something to do. -/
def migrate (card : Card) : Except UnknownVersion (Card × Bool) :=
  let found := card.core.version
  if cardVersion < found then .error ⟨found⟩
  else if found = cardVersion then .ok (card, false)
  else
    let migrated := match card with
      | .general card => Card.general card
      | .coc card => .coc (card.migrateFrom found)
      | .dnd card => .dnd (card.migrateFrom found)
    .ok (migrated.setCore { migrated.core with version := cardVersion }, true)

end Card

open Text

/-- One entry or ability of a card's summary. -/
structure CardRow where
  group : String
  key : String
  value : String
deriving DecidableEq, Repr

namespace CardRow

/-- The row of a word, with the value behind the first colon. -/
def ofWord (group word : List Char) : CardRow :=
  match cutAt? [':'] word with
  | some (key, value) => ⟨String.ofList group, String.ofList key, String.ofList value⟩
  | none => ⟨String.ofList group, String.ofList word, ""⟩

/-- The rows of a line, which may name its group in front. -/
def ofLine (line : List Char) : List CardRow :=
  match cutAt? [':', ' '] line with
  | some (group, values) => (words values).map (ofWord group)
  | none => (words line).map (ofWord [])

end CardRow

namespace Card

/-- The lines of a card's summary. -/
def summaryLines (card : Card) : List (List Char) :=
  lines card.summary.toList

/-- The name and the kind of a card. -/
def title (card : Card) : List Char :=
  (summaryLines card).headD []

/-- The entries and abilities that the summary of a card lists. -/
def rows (card : Card) : List CardRow :=
  (summaryLines card).tail.flatMap CardRow.ofLine

end Card

end Tabletop
