/-
This file defines what plugins do at their hooks, and the messages that are sent meanwhile.
-/

import Tabletop.Command
import Tabletop.Plugin.Item
import Tabletop.Roll.State

namespace Tabletop

inductive Receiver where
  | channel (id : String)
  | user (id : String)
deriving DecidableEq, Repr

structure Message where
  receiver : Receiver
  text : String
deriving DecidableEq, Repr

/-- What a hook makes of a command. -/
structure Received where
  command : Command
  /-- The hook handled the command. -/
  handled : Bool
  messages : List Message
deriving DecidableEq, Repr

/-- What a hook makes of a reaction. -/
structure Reacted where
  handled : Bool
  messages : List Message
deriving DecidableEq, Repr

/-- What a hook does, by its kind. -/
inductive HookAction where
  | receiveCommand (run : Command → Received)
  | parseDiceRoll (run : Context → String → String)
  | cardEntryChange (run : CardChange → List Message)
  | messageReaction (run : Reaction → Reacted)
  | beforeDiceRoll (run : RollState → RollState)
  | afterDiceRoll (run : RollState → RollState)

structure Hook where
  id : String
  defaultEnabled : Bool
  action : HookAction

namespace HookAction

def kind : HookAction → HookKind
  | .receiveCommand _ => .receiveCommand
  | .parseDiceRoll _ => .parseDiceRoll
  | .cardEntryChange _ => .cardEntryChange
  | .messageReaction _ => .messageReaction
  | .beforeDiceRoll _ => .beforeDiceRoll
  | .afterDiceRoll _ => .afterDiceRoll

def receiveCommand? : HookAction → Option (Command → Received)
  | .receiveCommand run => some run
  | _ => none

def parseDiceRoll? : HookAction → Option (Context → String → String)
  | .parseDiceRoll run => some run
  | _ => none

def cardEntryChange? : HookAction → Option (CardChange → List Message)
  | .cardEntryChange run => some run
  | _ => none

def messageReaction? : HookAction → Option (Reaction → Reacted)
  | .messageReaction run => some run
  | _ => none

/-- What a hook does around the dice of a roll. -/
def diceRoll? : HookAction → Option (RollState → RollState)
  | .beforeDiceRoll run => some run
  | .afterDiceRoll run => some run
  | _ => none

end HookAction

end Tabletop
