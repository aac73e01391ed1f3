/-
This file defines the initiative lists of channels.
-/

import Tabletop.Table

namespace Tabletop

/-- A contender is a user's character or someone else. -/
inductive ContenderKind where
  | actor
  | npc
deriving DecidableEq, Repr

def ContenderKind.name : ContenderKind → String
  | .actor => "actor"
  | .npc => "npc"

structure Contender where
  kind : ContenderKind
  id : String
  name : String
  /-- The first number of the order. -/
  first : Int
  /-- The number that parts equal first ones. -/
  second : Int
deriving DecidableEq, Repr

namespace Contender

def actor (user name : String) (first second : Int) : Contender :=
  ⟨.actor, user, name, first, second⟩

def npc (name : String) (first second : Int) : Contender :=
  ⟨.npc, name, name, first, second⟩

/-- The left contender may stand in front of the right one. -/
def precedes (left right : Contender) : Bool :=
  right.first < left.first || (left.first == right.first && right.second ≤ left.second)

end Contender

/-- The lists of all channels. -/
abbrev Initiative := Table (List Contender)

namespace Initiative

def list (initiative : Initiative) (channel : String) : List Contender :=
  initiative.getD channel []

/-- Adds a contender to a list, in place of the one with its kind and id. -/
def place (contenders : List Contender) (contender : Contender) : List Contender :=
  (contenders.filter (fun other => !(other.kind == contender.kind && other.id == contender.id)) ++
    [contender]).mergeSort Contender.precedes

def upsert (initiative : Initiative) (channel : String) (contender : Contender) : Initiative :=
  initiative.insert channel (place (initiative.list channel) contender)

def clear (initiative : Initiative) (channel : String) : Initiative :=
  initiative.erase channel

/-- Drops the contenders with some names. It tells how many there were. -/
def remove (initiative : Initiative) (channel : String) (names : List String) :
    Initiative × Nat :=
  match initiative[channel]? with
  | none => (initiative, 0)
  | some contenders =>
    let others := contenders.filter fun contender => !names.contains contender.name
    (initiative.insert channel others, contenders.length - others.length)

end Initiative

end Tabletop
