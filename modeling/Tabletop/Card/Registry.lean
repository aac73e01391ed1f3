/-
This file defines the registry of cards and their links.
-/

import Tabletop.Card
import Tabletop.Card.Links
import Tabletop.Text.Lowercase

namespace Tabletop

structure Registry where
  cards : Table Card
  links : Links
  /-- Every card stands under its own name. -/
  named : ∀ (name : String) (card : Card), cards[name]? = some card → card.name = name

namespace Registry

def empty : Registry where
  cards := ∅
  links := []
  named := by simp

/-- Adds a card, in place of the one with its name. -/
def register (registry : Registry) (card : Card) : Registry where
  cards := registry.cards.insert card.name card
  links := registry.links
  named := by
    intro name other stored
    rw [Table.get_insert] at stored
    split at stored
    · next same => rw [← Option.some.inj stored, same]
    · exact registry.named name other stored

/-- Drops a card with all links to it. -/
def unregister (registry : Registry) (name : String) : Registry :=
  if registry.cards.contains name then
    { cards := registry.cards.erase name
      links := registry.links.forget name
      named := by
        intro other card stored
        rw [Table.get_erase] at stored
        split at stored
        · simp at stored
        · exact registry.named other card stored }
  else registry

def get? (registry : Registry) (name : String) : Option Card :=
  registry.cards[name]?

def contains (registry : Registry) (name : String) : Bool :=
  registry.cards.contains name

/-- The names of all cards in their order. -/
def names (registry : Registry) : List String :=
  registry.cards.keys

/-- The name of the card that a user holds in a channel, if it is registered. -/
def linkedName? (registry : Registry) (channel user : String) : Option String :=
  (registry.links.cardOf? channel user).filter registry.contains

/-- The card that a user holds in a channel. -/
def linkedCard? (registry : Registry) (channel user : String) : Option Card :=
  (registry.links.cardOf? channel user).bind registry.get?

/-- Puts a card back after a change. Cards keep their names. -/
def update (registry : Registry) (name : String) (card : Card) : Registry :=
  if card.name = name then registry.register card else registry

/-- Gives a card to a user, or takes the user's card away. -/
def link (registry : Registry) (channel user : String) (card : Option String) : Registry :=
  match card with
  | some card => { registry with links := registry.links.give channel user card }
  | none => { registry with links := registry.links.take channel user }

/-- The card with exactly this name, or else all cards whose names contain it in any case. -/
def search (registry : Registry) (keyword : String) : List String :=
  if registry.contains keyword then [keyword]
  else
    let lower := Text.lowercase keyword.toList
    registry.names.filter fun name => Text.includes lower (Text.lowercase name.toList)

/-- The changes of all cards, in the order of their names. -/
def changes (registry : Registry) : List CardChange :=
  (registry.cards.toList.map fun (_, card) => card.core.changes).flatten

/-- The registry after its changes were taken. -/
def withoutChanges (registry : Registry) : Registry where
  cards := registry.cards.map fun _ card => card.withoutChanges
  links := registry.links
  named := by
    intro name card stored
    rw [Std.ExtTreeMap.getElem?_map, Option.map_eq_some_iff] at stored
    obtain ⟨before, kept, rfl⟩ := stored
    rw [Card.withoutChanges_name]
    exact registry.named name before kept

end Registry

end Tabletop
