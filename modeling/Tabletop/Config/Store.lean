/-
This file keeps the configs of channels, and brings their lists in line with the loaded plugins.
-/

import Tabletop.Config.Format
import Tabletop.Plugin

namespace Tabletop

namespace ItemRef

/-- An item can be found in the config itself or among the loaded items. -/
def isAvailable (loaded : List (FullId × Bool)) (ref : ItemRef) : Bool :=
  ref.id.isEmbedded || loaded.any (·.1 == ref.id)

/-- Adds an item at the end of a list, unless it is there. -/
def addMissing (refs : List ItemRef) (item : FullId × Bool) : List ItemRef :=
  if refs.any (·.id == item.1) then refs else refs ++ [⟨item.1, item.2⟩]

/-- The items of a list that can be found, and behind them the loaded ones that it lacks. -/
def sync (loaded : List (FullId × Bool)) (refs : List ItemRef) : List ItemRef :=
  loaded.foldl addMissing (refs.filter (isAvailable loaded))

end ItemRef

namespace Config

/-- The decider of an id can be found in the config itself or among the plugins. -/
def isDeciderAvailable (plugins : Plugins) (id : FullId) : Bool :=
  id.isEmbedded || (plugins.decider? id).isSome

/-- The config in line with the plugins, but for its time of change. -/
def synced (config : Config) (plugins : Plugins) : Config :=
  { config with
    aliases := ItemRef.sync plugins.aliasIds config.aliases
    texts := ItemRef.sync plugins.textIds config.texts
    hooks := fun kind => some (ItemRef.sync (plugins.hookIds kind) ((config.hooks kind).getD []))
    deciderId :=
      if isDeciderAvailable plugins config.deciderId then config.deciderId else standardDecider
    dndDeciderId := config.dndDeciderId.map fun id =>
      if isDeciderAvailable plugins id then id else standardDndDecider
    preferences := config.preferences.filter fun plugin _ => (plugins.plugin? plugin).isSome }

/-- Some list, decider or setting of two configs differs. A missing list of hooks is an empty one. -/
def differs (before after : Config) : Bool :=
  before.aliases != after.aliases || before.texts != after.texts ||
    HookKind.all.any (fun kind => (before.hooks kind).getD [] != (after.hooks kind).getD []) ||
    before.deciderId != after.deciderId || before.dndDeciderId != after.dndDeciderId ||
    before.preferences.size != after.preferences.size

/-- Brings a config in line with the plugins. It tells whether something changed. -/
def sync (config : Config) (now : Instant) (plugins : Plugins) : Config × Bool :=
  let synced := config.synced plugins
  if config.differs synced then ({ synced with lastModified := now }, true) else (synced, false)

end Config

/-- A config for new channels, and the configs of the others. -/
structure ConfigStore where
  standard : Config
  channels : Table Config

namespace ConfigStore

def empty (now : Instant) : ConfigStore :=
  ⟨.standard now, ∅⟩

/-- The config of a channel. -/
def get (store : ConfigStore) (channel : String) : Config :=
  store.channels.getD channel store.standard

/-- Gives a channel a config. -/
def set (store : ConfigStore) (channel : String) (config : Config) : ConfigStore :=
  { store with channels := store.channels.insert channel config }

/-- Gives a channel a config of its own. -/
def own (store : ConfigStore) (channel : String) : ConfigStore :=
  store.set channel (store.get channel)

/-- Gives a channel the config in a text. -/
def load (store : ConfigStore) (now : Instant) (channel text : String) :
    Except Error ConfigStore :=
  (Config.ofText now text).map (store.set channel)

/-- Brings all configs in line with the plugins. -/
def sync (store : ConfigStore) (now : Instant) (plugins : Plugins) : ConfigStore :=
  { standard := (store.standard.sync now plugins).1
    channels := store.channels.map fun _ config => (config.sync now plugins).1 }

end ConfigStore

end Tabletop
