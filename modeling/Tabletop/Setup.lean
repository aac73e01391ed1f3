/-
This file defines the setup of a channel: its config together with the loaded plugins.
-/

import Tabletop.Config
import Tabletop.Plugin
import Tabletop.Reply.Text

namespace Tabletop

structure Setup where
  config : Config
  plugins : Plugins

namespace Setup

/-- The expression of rolls that name none, for a kind of card. -/
def defaultExpression (setup : Setup) : CardKind → String
  | .dnd => setup.config.defaultRoll.dndExpression
  | _ => setup.config.defaultRoll.expression

/-- The id of the decider for a kind of card. -/
def deciderId? (setup : Setup) : CardKind → Option FullId
  | .dnd => setup.config.dndDeciderId
  | _ => some setup.config.deciderId

/-- The decider for a kind of card. -/
def decider? (setup : Setup) (kind : CardKind) : Option Decider := do
  let id ← setup.deciderId? kind
  if id.isEmbedded then setup.config.own.deciders.find? (·.id == id.item)
  else setup.plugins.decider? id

/-- How a roll of a kind of card is judged. Without a decider it is not. -/
def decide (setup : Setup) (kind : CardKind) (attempt : Attempt) : Option Level :=
  (setup.decider? kind).bind (·.decide attempt)

/-- The alias with an id. -/
def alias? (setup : Setup) (id : FullId) : Option Alias :=
  if id.isEmbedded then
    (setup.config.own.aliases.find? (·.id == id.item)).map fun rule => ⟨id, rule, none⟩
  else (setup.plugins.alias? id).map fun item => ⟨id, item.rule, item.callback⟩

/-- The items of a list that are in use. -/
def enabled (refs : List ItemRef) : List FullId :=
  (refs.filter (·.enabled)).map (·.id)

/-- The aliases in use of a scope, in the order in which they are tried. -/
def aliases (setup : Setup) (scope : AliasScope) : List Alias :=
  ((enabled setup.config.aliases).filterMap setup.alias?).filter (·.rule.scope == scope)

/-- The text set with an id. -/
def textSet? (setup : Setup) (id : FullId) : Option Reply.TextSet :=
  if id.isEmbedded then setup.config.own.texts.find? (·.id == id.item)
  else setup.plugins.textSet? id

/-- The text sets in use, the one that counts first in front and the built-in one at the end. -/
def textSets (setup : Setup) : List Reply.TextSet :=
  (enabled setup.config.texts).reverse.filterMap setup.textSet? ++ [Reply.standardTexts]

/-- The candidates for a key in the first text set that has the key, unless there are none. -/
def text? (setup : Setup) (key : String) : Option (List Reply.Item) :=
  (setup.textSets.findSome? (·.texts[key]?)).filter fun items => !items.isEmpty

/-- Picks a reply for a key and fills the variables in. Without candidates it is empty. -/
def render (setup : Setup) (key : String) (bindings : Reply.Variables) : StateM Faces String := do
  match setup.text? key with
  | none => return ""
  | some items =>
    match ← Reply.pick items with
    | none => return ""
    | some item => return String.ofList (Reply.render bindings item.text.toList)

/-- A setting of a plugin: that of the channel, or else the plugin's own. -/
def preference? (setup : Setup) (plugin key : String) : Option String :=
  let changed := (setup.config.preferences[plugin]?).bind (·[key]?)
  changed.or do
    let plugin ← setup.plugins.plugin? plugin
    let preference ← plugin.preferences.find? (·.key == key)
    return preference.standard

/-- The hooks in use of a kind, in the order in which they run. -/
def hooks (setup : Setup) (kind : HookKind) : List HookAction :=
  let found := (enabled ((setup.config.hooks kind).getD [])).filterMap setup.plugins.hook?
  (found.map (·.action)).filter (·.kind == kind)

def receiveCommandHooks (setup : Setup) : List (Command → Received) :=
  (setup.hooks .receiveCommand).filterMap HookAction.receiveCommand?

def parseDiceRollHooks (setup : Setup) : List (Context → String → String) :=
  (setup.hooks .parseDiceRoll).filterMap HookAction.parseDiceRoll?

def cardEntryChangeHooks (setup : Setup) : List (CardChange → List Message) :=
  (setup.hooks .cardEntryChange).filterMap HookAction.cardEntryChange?

def messageReactionHooks (setup : Setup) : List (Reaction → Reacted) :=
  (setup.hooks .messageReaction).filterMap HookAction.messageReaction?

/-- The hooks before or after the dice of a roll. -/
def diceRollHooks (setup : Setup) (kind : HookKind) : List (RollState → RollState) :=
  (setup.hooks kind).filterMap HookAction.diceRoll?

end Setup

end Tabletop
