/-
This file defines which user holds which card in which channel.
-/

import Tabletop.Json.Value
import Tabletop.Table

namespace Tabletop

structure Link where
  channel : String
  user : String
  card : String
deriving DecidableEq, Repr

/-- The links of all channels. -/
abbrev Links := List Link

namespace Links

def cardOf? (links : Links) (channel user : String) : Option String :=
  (links.find? fun link => link.channel == channel && link.user == user).map (·.card)

/-- Gives a card to a user. In the channel, the user's other card and the card's other holder lose
their links. -/
def give (links : Links) (channel user card : String) : Links :=
  (links.filter fun link =>
    !(link.channel == channel && (link.user == user || link.card == card))) ++
      [⟨channel, user, card⟩]

/-- Takes the user's card in a channel away. -/
def take (links : Links) (channel user : String) : Links :=
  links.filter fun link => !(link.channel == channel && link.user == user)

/-- Takes a card away from everyone. -/
def forget (links : Links) (card : String) : Links :=
  links.filter (·.card != card)

/-- The channels and users that hold a card, in their order. -/
def holders (links : Links) (card : String) : List (String × String) :=
  ((links.filter (·.card == card)).map fun link => (link.channel, link.user)).mergeSort
    fun left right => left.1 < right.1 || (left.1 == right.1 && left.2 ≤ right.2)

/-- All held cards in their order, with their holders. -/
def byCard (links : Links) : List (String × List (String × String)) :=
  let cards := Table.ofPairs (links.map fun link => (link.card, ()))
  cards.keys.map fun card => (card, links.holders card)

/-- The user that holds a card in a channel. -/
def holder? (links : Links) (channel card : String) : Option String :=
  ((links.holders card).find? (·.1 == channel)).map (·.2)

/-- The held cards with the channels and users of their holders. -/
def toJson (links : Links) : Json :=
  .object (links.byCard.map fun (card, holders) =>
    (card, .ofList (fun (channel, user) => .strings [channel, user]) holders))

end Links

end Tabletop
