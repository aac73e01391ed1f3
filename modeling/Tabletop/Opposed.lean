/-
This file defines what is kept of rolls that others may answer.
-/

import Tabletop.Card.Entry
import Tabletop.Decider
import Tabletop.Table

namespace Tabletop

/-- What a reply is compared with. -/
structure Snapshot where
  user : String
  username : String
  cardKind : CardKind
  skill : String
  level : Option Level
  target : Int
  total : Int
  output : String
deriving DecidableEq, Repr

namespace Snapshot

/-- Levels in their order. A roll without a level is below all others. -/
def levelRank (snapshot : Snapshot) : Nat :=
  match snapshot.level with
  | some level => level.rank + 1
  | none => 0

/-- How a reply stands against the roll that it answers. -/
def compare (reply prior : Snapshot) : Ordering :=
  match reply.cardKind with
  | .dnd => Ord.compare reply.total prior.total
  | _ => (Ord.compare reply.levelRank prior.levelRank).then (Ord.compare reply.target prior.target)

end Snapshot

/-- The open rolls of all channels by their messages, from the oldest to the latest. -/
abbrev OpenRolls := Table (List (String × Snapshot))

namespace OpenRolls

/-- The most open rolls of a channel. -/
def maxPerChannel : Nat := 20

def list (rolls : OpenRolls) (channel : String) : List (String × Snapshot) :=
  rolls.getD channel []

/-- Adds a roll to a list as the latest one. A full list loses its oldest roll. -/
def place (entries : List (String × Snapshot)) (message : String) (snapshot : Snapshot) :
    List (String × Snapshot) :=
  let others := entries.filter (·.1 != message)
  (if others.length < maxPerChannel then others else others.tail) ++ [(message, snapshot)]

def insert (rolls : OpenRolls) (channel message : String) (snapshot : Snapshot) : OpenRolls :=
  Std.ExtTreeMap.insert rolls channel (place (rolls.list channel) message snapshot)

def find? (rolls : OpenRolls) (channel message : String) : Option Snapshot :=
  ((rolls.list channel).find? (·.1 == message)).map (·.2)

end OpenRolls

end Tabletop
