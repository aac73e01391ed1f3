/-
This file defines what a standard roll works out.
-/

import Tabletop.Card.Entry
import Tabletop.Decider
import Tabletop.Notation.Roll

namespace Tabletop

/-- A skill that is named behind the expression of a roll. -/
structure Skill where
  name : String
  /-- The signed number behind the name. -/
  modifier : Int
  /-- The plain number behind the name: a value, or what the roll has to reach. -/
  number : Option Int
  /-- The entry that is tested. -/
  entry : Option Entry
deriving DecidableEq, Repr

/-- A test of a skill by a roll. -/
structure Test where
  skill : String
  key : String
  kind : EntryKind
  base : Int
  target : Int
  modifier : Int
  /-- The value stands in the command itself. -/
  isTemporary : Bool
  level : Option Level
deriving DecidableEq, Repr

/-- One roll of the dice with its tests. -/
structure TestedRoll where
  /-- The skill that the roll was made for. -/
  label : Option String
  result : Notation.Result
  tests : List Test
deriving DecidableEq, Repr

/-- What a standard roll works out. Plugins may change it before and after the dice are rolled. -/
structure RollState where
  expression : String
  /-- The text behind the expression. -/
  description : String
  /-- Only the sender sees the result. -/
  hidden : Bool
  /-- Only totals are shown. -/
  quiet : Bool
  /-- Others may answer the roll. -/
  versus : Bool
  times : Nat
  cardKind : CardKind
  skills : List Skill
  rolls : List TestedRoll
deriving DecidableEq, Repr

namespace RollState

/-- The state before anything is read. -/
def initial : RollState :=
  ⟨"", "", false, false, false, 1, .general, [], []⟩

end RollState

end Tabletop
