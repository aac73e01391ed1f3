/-
This file writes configs as JSON and reads them back.
-/

import Tabletop.Card.Format
import Tabletop.Config
import Tabletop.Error
import Tabletop.Json.Merge

namespace Tabletop

namespace ItemRef

def toJson (ref : ItemRef) : Json :=
  .object [("id", ref.id.toJson), ("enabled", .bool ref.enabled)]

def decode : Decoder ItemRef := fun json => do
  let record ← json.record? ["id", "enabled"]
  return ⟨← record.required "id" FullId.decode, ← record.required "enabled" .bool⟩

end ItemRef

namespace DefaultRoll

def toJson (roll : DefaultRoll) : Json :=
  .object [("expression", .string roll.expression), ("dndExpression", .string roll.dndExpression)]

def decode : Decoder DefaultRoll := fun json => do
  let record ← json.record? ["expression", "dndExpression"]
  return ⟨← record.required "expression" .string, ← record.required "dndExpression" .string⟩

end DefaultRoll

namespace ReactionTrigger

def toJson (trigger : ReactionTrigger) : Json :=
  .object [("enabled", .bool trigger.enabled), ("emojis", .strings trigger.emojis)]

def decode : Decoder ReactionTrigger := fun json => do
  let record ← json.record? ["enabled", "emojis"]
  return ⟨← record.withDefault "enabled" .bool true, ← record.withDefault "emojis" (.list .string) []⟩

end ReactionTrigger

namespace Switches

def toJson (switches : Switches) : Json :=
  .object [("sc", .bool switches.sanity), ("en", .bool switches.growth),
    ("ri", .bool switches.initiative), ("st", .bool switches.edit),
    ("ds", .bool switches.deathSave), ("nn", .bool switches.link), ("pc", .bool switches.admin),
    ("opposed", .bool switches.opposed), ("inMessage", .bool switches.inMessage),
    ("reaction", switches.reaction.toJson)]

def decode : Decoder Switches := fun json => do
  let record ← json.record?
    ["sc", "en", "ri", "st", "ds", "nn", "pc", "opposed", "inMessage", "reaction"]
  let switch (name : String) : Option Bool := record.withDefault name .bool true
  return { sanity := ← switch "sc"
           growth := ← switch "en"
           initiative := ← switch "ri"
           edit := ← switch "st"
           deathSave := ← switch "ds"
           link := ← switch "nn"
           admin := ← switch "pc"
           opposed := ← switch "opposed"
           inMessage := ← switch "inMessage"
           reaction := ← record.withDefault "reaction" ReactionTrigger.decode .standard }

end Switches

namespace OwnItems

def toJson (items : OwnItems) : Json :=
  .object [("rules", .ofList Decider.toJson items.deciders),
    ("aliasRolls", .ofList AliasRule.toJson items.aliases),
    ("customTexts", .ofList Reply.TextSet.toJson items.texts)]

def decode : Decoder OwnItems := fun json => do
  let record ← json.record? ["rules", "aliasRolls", "customTexts"]
  return ⟨← record.withDefault "rules" (.list Decider.decode) [],
    ← record.withDefault "aliasRolls" (.list AliasRule.decode) [],
    ← record.withDefault "customTexts" (.list Reply.TextSet.decode) []⟩

end OwnItems

namespace HookLists

/-- The lists that are there, by the names of their kinds. -/
def toJson (hooks : HookLists) : Json :=
  .object (HookKind.all.filterMap fun kind =>
    (hooks kind).map fun refs => (kind.name, .ofList ItemRef.toJson refs))

def decode : Decoder HookLists := fun json => do
  let table ← Decoder.table (.list ItemRef.decode) json
  if table.keys.all (HookKind.all.map HookKind.name).contains then
    return fun kind => table[kind.name]?
  else none

end HookLists

namespace Config

def toJson (config : Config) : Json :=
  .object [("version", .nat config.version), ("defaultRoll", config.defaultRoll.toJson),
    ("specialDice", config.switches.toJson), ("deciderId", config.deciderId.toJson),
    ("dndDeciderId", .ofOption FullId.toJson config.dndDeciderId),
    ("aliasRollIds", .ofList ItemRef.toJson config.aliases),
    ("customTextIds", .ofList ItemRef.toJson config.texts), ("hookIds", config.hooks.toJson),
    ("embedPlugin", config.own.toJson), ("plugins", .ofTable (.ofTable .string) config.preferences),
    ("lastModified", .string config.lastModified.text)]

/-- The config without the definitions of its own items and its time of change. -/
def summary (config : Config) : Json :=
  let own := Json.array [.strings (config.own.deciders.map (·.id)),
    .strings (config.own.aliases.map (·.id)), .strings (config.own.texts.map (·.id))]
  match config.toJson.without "lastModified" with
  | .object fields => .object (fields.map fun (key, value) =>
      (key, if key == "embedPlugin" then own else value))
  | json => json

/-- The text in which configs are kept. -/
def text (config : Config) : String :=
  config.toJson.toLines

/-- Reads a config of any version. A config without a time of change gets `now`. -/
def decode (now : Instant) : Decoder Config := fun json => do
  let record ← json.record? ["version", "defaultRoll", "specialDice", "deciderId", "dndDeciderId",
    "aliasRollIds", "customTextIds", "hookIds", "embedPlugin", "plugins", "lastModified"]
  return { version := ← record.withDefault "version" .count 1
           defaultRoll := ← record.withDefault "defaultRoll" DefaultRoll.decode .standard
           switches := ← record.withDefault "specialDice" Switches.decode .standard
           deciderId := ← record.withDefault "deciderId" FullId.decode standardDecider
           dndDeciderId := ← record.optional "dndDeciderId" FullId.decode
           aliases := ← record.withDefault "aliasRollIds" (.list ItemRef.decode) []
           texts := ← record.withDefault "customTextIds" (.list ItemRef.decode) []
           hooks := ← record.withDefault "hookIds" HookLists.decode fun _ => none
           own := ← record.withDefault "embedPlugin" OwnItems.decode .standard
           preferences := ← record.withDefault "plugins" (.table (.table .string)) ∅
           lastModified := ← record.withDefault "lastModified" .instant now }

/-- The name of configs in errors. -/
def thing : String := "config"

/-- Reads a config and brings it up to date. -/
def ofJson (now : Instant) (json : Json) : Except Error Config :=
  match decode now json with
  | none => .error .malformed
  | some config =>
    match config.migrate now with
    | .ok (config, _) => .ok config
    | .error version => .error (.unknownVersion thing version.found configVersion)

/-- Reads the text of a config. -/
def ofText (now : Instant) (text : String) : Except Error Config :=
  match Json.parse text.toList with
  | some json => ofJson now json
  | none => .error .malformed

end Config

end Tabletop
