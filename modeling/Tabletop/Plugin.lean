/-
This file defines plugins and how their items are found by id.
-/

import Tabletop.Alias
import Tabletop.Decider
import Tabletop.Plugin.Hook
import Tabletop.Reply.Text

namespace Tabletop

/-- An alias rule of a plugin. A callback takes the place of a pattern's replacement. -/
structure PluginAlias where
  rule : AliasRule
  callback : Option AliasCallback

/-- A setting of a plugin that channels may change. -/
structure Preference where
  key : String
  label : String
  standard : String
deriving DecidableEq, Repr

structure Plugin where
  id : String
  name : String
  version : Nat
  deciders : List Decider
  aliases : List PluginAlias
  texts : List Reply.TextSet
  hooks : List Hook
  preferences : List Preference

namespace Plugin

variable {α : Type}

/-- The items of a plugin by their full ids. -/
def items (plugin : Plugin) (values : Plugin → List α) (id : α → String) : List (FullId × α) :=
  (values plugin).map fun value => (⟨plugin.id, id value⟩, value)

end Plugin

/-- The loaded plugins in their order. -/
abbrev Plugins := List Plugin

namespace Plugins

variable {α : Type}

/-- The items of all plugins in their order. -/
def items (plugins : Plugins) (values : Plugin → List α) (id : α → String) : List (FullId × α) :=
  plugins.flatMap (·.items values id)

def deciders (plugins : Plugins) : List (FullId × Decider) :=
  plugins.items (·.deciders) (·.id)

def aliases (plugins : Plugins) : List (FullId × PluginAlias) :=
  plugins.items (·.aliases) (·.rule.id)

def texts (plugins : Plugins) : List (FullId × Reply.TextSet) :=
  plugins.items (·.texts) (·.id)

def hooks (plugins : Plugins) : List (FullId × Hook) :=
  plugins.items (·.hooks) (·.id)

/-- The last item with an id. -/
def lookup? (id : FullId) (items : List (FullId × α)) : Option α :=
  (items.reverse.find? (·.1 == id)).map (·.2)

/-- The first plugin with an id. -/
def plugin? (plugins : Plugins) (id : String) : Option Plugin :=
  plugins.find? (·.id == id)

def decider? (plugins : Plugins) (id : FullId) : Option Decider :=
  lookup? id plugins.deciders

def alias? (plugins : Plugins) (id : FullId) : Option PluginAlias :=
  lookup? id plugins.aliases

def textSet? (plugins : Plugins) (id : FullId) : Option Reply.TextSet :=
  lookup? id plugins.texts

def hook? (plugins : Plugins) (id : FullId) : Option Hook :=
  lookup? id plugins.hooks

/-- Some item has the id. -/
def contains (plugins : Plugins) (id : FullId) : Bool :=
  (plugins.decider? id).isSome || (plugins.alias? id).isSome || (plugins.textSet? id).isSome ||
    (plugins.hook? id).isSome

/-- The ids of all alias rules. New channels enable those with the mark. -/
def aliasIds (plugins : Plugins) : List (FullId × Bool) :=
  plugins.aliases.map fun (id, item) => (id, item.rule.defaultEnabled)

/-- The ids of all text sets. -/
def textIds (plugins : Plugins) : List (FullId × Bool) :=
  plugins.texts.map fun (id, set) => (id, set.defaultEnabled)

/-- The ids of all hooks of a kind. -/
def hookIds (plugins : Plugins) (kind : HookKind) : List (FullId × Bool) :=
  (plugins.hooks.filter (·.2.action.kind == kind)).map fun (id, hook) => (id, hook.defaultEnabled)

end Plugins

end Tabletop
