/-
This file defines the ids of what plugins bring, and the points at which plugins hook into the engine.
-/

import Tabletop.Json.Decode
import Tabletop.Text.Cut

namespace Tabletop

/-- The id of an item and the id of the plugin that brings it. -/
structure FullId where
  plugin : String
  item : String
deriving DecidableEq, Repr

namespace FullId

/-- The id of the plugin that is always there. -/
def embeddedPlugin : String := "io.paotuan.embed"

def embedded (item : String) : FullId := ⟨embeddedPlugin, item⟩

def isEmbedded (id : FullId) : Bool :=
  id.plugin == embeddedPlugin

def text (id : FullId) : String :=
  id.plugin ++ "." ++ id.item

/-- Reads an id. The last dot parts the plugin from the item, and neither is empty. -/
def parse? (text : String) : Option FullId :=
  match Text.cutAtLast? ['.'] text.toList with
  | some (plugin, item) =>
    if plugin.isEmpty || item.isEmpty then none
    else some ⟨String.ofList plugin, String.ofList item⟩
  | none => none

def toJson (id : FullId) : Json :=
  .string id.text

def decode : Decoder FullId
  | .string text => parse? text
  | _ => none

end FullId

inductive HookKind where
  | receiveCommand
  | parseDiceRoll
  | cardEntryChange
  | messageReaction
  | beforeDiceRoll
  | afterDiceRoll
deriving DecidableEq, Repr

namespace HookKind

def all : List HookKind :=
  [.receiveCommand, .parseDiceRoll, .cardEntryChange, .messageReaction, .beforeDiceRoll,
   .afterDiceRoll]

def name : HookKind → String
  | .receiveCommand => "onReceiveCommand"
  | .parseDiceRoll => "beforeParseDiceRoll"
  | .cardEntryChange => "onCardEntryChange"
  | .messageReaction => "onMessageReaction"
  | .beforeDiceRoll => "beforeDiceRoll"
  | .afterDiceRoll => "afterDiceRoll"

def decode : Decoder HookKind :=
  .choice (all.map fun kind => (kind.name, kind))

end HookKind

end Tabletop
