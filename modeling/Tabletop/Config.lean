/-
This file defines the configs of channels and brings those of earlier versions up to date.
-/

import Tabletop.Alias.Rule
import Tabletop.Decider
import Tabletop.Instant
import Tabletop.Plugin.Item
import Tabletop.Reply.Standard

namespace Tabletop

/-- An item that a channel knows, and whether it is in use. -/
structure ItemRef where
  id : FullId
  enabled : Bool
deriving DecidableEq, Repr

/-- The expressions of rolls that name none. -/
structure DefaultRoll where
  expression : String
  dndExpression : String
deriving DecidableEq, Repr

def DefaultRoll.standard : DefaultRoll :=
  ⟨"d100", "d20"⟩

/-- The emojis that roll the message on which they are put. -/
structure ReactionTrigger where
  enabled : Bool
  emojis : List String
deriving DecidableEq, Repr

def ReactionTrigger.standard : ReactionTrigger :=
  ⟨true, ["🎲"]⟩

/-- Which special commands and replies are in use. -/
structure Switches where
  sanity : Bool
  growth : Bool
  initiative : Bool
  edit : Bool
  deathSave : Bool
  link : Bool
  admin : Bool
  opposed : Bool
  /-- Rolls within plain messages. -/
  inMessage : Bool
  reaction : ReactionTrigger
deriving DecidableEq, Repr

def Switches.standard : Switches :=
  ⟨true, true, true, true, true, true, true, true, true, .standard⟩

/-- The items that a config defines itself. -/
structure OwnItems where
  deciders : List Decider
  aliases : List AliasRule
  texts : List Reply.TextSet
deriving DecidableEq

def OwnItems.standard : OwnItems :=
  ⟨Decider.embedded, AliasRule.embedded, [Reply.standardTexts]⟩

/-- The hooks of a channel by their kinds, in the order in which they run. Configs of old versions
have lists for some kinds only. -/
abbrev HookLists := HookKind → Option (List ItemRef)

theorem HookKind.memAll (kind : HookKind) : kind ∈ HookKind.all := by
  cases kind <;> simp [HookKind.all]

instance : DecidableEq HookLists := fun left right =>
  if same : ∀ kind ∈ HookKind.all, left kind = right kind then
    isTrue (funext fun kind => same kind kind.memAll)
  else isFalse fun equal => same fun _ _ => by rw [equal]

structure Config where
  version : Nat
  defaultRoll : DefaultRoll
  switches : Switches
  /-- The decider of all cards but those that have their own one. -/
  deciderId : FullId
  dndDeciderId : Option FullId
  /-- The alias rules in the order in which they are tried. -/
  aliases : List ItemRef
  /-- The text sets. Later ones come first. -/
  texts : List ItemRef
  hooks : HookLists
  own : OwnItems
  /-- The changed settings of plugins by the ids of the plugins. -/
  preferences : Table (Table String)
  lastModified : Instant
deriving DecidableEq

/-- The version of new configs. -/
def configVersion : Nat := 3

namespace Config

def standardDecider : FullId := .embedded "coc0"

def standardDndDecider : FullId := .embedded "dnd0"

def standardTextRef : ItemRef :=
  ⟨.embedded Reply.standardTexts.id, true⟩

/-- The config of channels that have none. -/
def standard (now : Instant) : Config where
  version := configVersion
  defaultRoll := .standard
  switches := .standard
  deciderId := standardDecider
  dndDeciderId := some standardDndDecider
  aliases := AliasRule.embedded.map fun rule => ⟨.embedded rule.id, rule.defaultEnabled⟩
  texts := [standardTextRef]
  hooks := fun _ => some []
  own := .standard
  preferences := ∅
  lastModified := now

/-- Sets a setting of a plugin. -/
def setPreference (config : Config) (now : Instant) (plugin key value : String) : Config :=
  let values := (config.preferences.getD plugin ∅).insert key value
  { config with preferences := config.preferences.insert plugin values, lastModified := now }

/-- The deciders with the built-in ones whose ids are missing. -/
def withMissingDeciders (deciders : List Decider) : List Decider :=
  deciders ++ Decider.embedded.filter fun decider => !deciders.any (·.id == decider.id)

/-- The second version has lists for all kinds of hooks and a decider of its own for some cards. -/
def toSecond (config : Config) : Config :=
  { config with
    hooks := fun kind => some ((config.hooks kind).getD [])
    own := { config.own with deciders := withMissingDeciders config.own.deciders }
    dndDeciderId := some (config.dndDeciderId.getD standardDndDecider)
    version := 2 }

/-- The text sets with the built-in one in front, if it is missing. -/
def withStandardTexts (sets : List Reply.TextSet) : List Reply.TextSet :=
  if sets.any (·.id == Reply.standardTexts.id) then sets else Reply.standardTexts :: sets

/-- The references with that to the built-in text set in front, if it is missing. -/
def withStandardTextRef (refs : List ItemRef) : List ItemRef :=
  if refs.any (·.id == standardTextRef.id) then refs else standardTextRef :: refs

/-- The third version has the built-in text set and emojis that roll messages. -/
def toThird (config : Config) : Config :=
  { config with
    own := { config.own with texts := withStandardTexts config.own.texts }
    texts := withStandardTextRef config.texts
    switches :=
      if config.switches.reaction.emojis.isEmpty then
        { config.switches with reaction := .standard }
      else config.switches
    version := configVersion }

/-- A config is of a version that is not known yet. -/
structure UnknownVersion where
  found : Nat
deriving DecidableEq, Repr

/-- Brings a config up to date. It tells whether there was something to do. -/
def migrate (config : Config) (now : Instant) : Except UnknownVersion (Config × Bool) :=
  if configVersion < config.version then .error ⟨config.version⟩
  else if config.version = configVersion then .ok (config, false)
  else
    let second := if config.version < 2 then config.toSecond else config
    .ok ({ second.toThird with lastModified := now }, true)

end Config

end Tabletop
