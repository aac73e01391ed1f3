/-
This file reads plugins that are written as JSON. Their hooks and callbacks are scripts of a few
fixed actions.
-/

import Tabletop.Plugin

namespace Tabletop

open Text

/-- What a script assigns to a roll. What it leaves out stays. -/
structure RollChanges where
  expression : Option String
  description : Option String
  hidden : Option Bool
  quiet : Option Bool
  versus : Option Bool
  times : Option Nat
  /-- The modifier of all skills. -/
  modifier : Option Int
  dropsSkills : Bool
  dropsRolls : Bool
deriving DecidableEq, Repr

structure HookScript where
  /-- What is sent to the channel of a command. -/
  say : Option String
  /-- The start of the commands, or the emoji, that the hook handles. -/
  stop : Option String
  /-- A text, and what is put in its place. -/
  replacement : Option (String × String)
  changes : RollChanges
deriving DecidableEq, Repr

structure CallbackScript where
  /-- The group of the pattern that is kept. -/
  group : String
  before : String
  /-- The name of the sender follows. -/
  namesSender : Bool
deriving DecidableEq, Repr

/-! Running -/

namespace RollChanges

def none : RollChanges :=
  ⟨.none, .none, .none, .none, .none, .none, .none, false, false⟩

def skills (changes : RollChanges) (skills : List Skill) : List Skill :=
  if changes.dropsSkills then []
  else
    match changes.modifier with
    | some modifier => skills.map fun skill => { skill with modifier := modifier }
    | .none => skills

def run (changes : RollChanges) (state : RollState) : RollState :=
  { state with
    expression := changes.expression.getD state.expression
    description := changes.description.getD state.description
    hidden := changes.hidden.getD state.hidden
    quiet := changes.quiet.getD state.quiet
    versus := changes.versus.getD state.versus
    times := changes.times.getD state.times
    skills := changes.skills state.skills
    rolls := if changes.dropsRolls then [] else state.rolls }

end RollChanges

namespace HookScript

def replace (script : HookScript) (text : String) : String :=
  match script.replacement with
  | some (old, new) => String.ofList (replaceAll old.toList new.toList text.toList)
  | none => text

/-- The hook handles commands that start with the stop. -/
def stops (script : HookScript) (text : String) : Bool :=
  script.stop.any fun stop => (after? stop.toList text.toList).isSome

def receive (script : HookScript) (command : Command) : Received :=
  let messages := script.say.toList.map fun said => ⟨.channel command.context.channel, said⟩
  if script.stops command.text then ⟨command, true, messages⟩
  else ⟨{ command with text := script.replace command.text }, false, messages⟩

/-- Tells the channel with the hook's id of a change. -/
def announce (id : String) (change : CardChange) : List Message :=
  let value := (change.newValue.map Number.intText).getD "-"
  [⟨.channel id, change.cardName ++ " " ++ change.key ++ " " ++ value⟩]

def action (script : HookScript) (id : String) : HookKind → HookAction
  | .receiveCommand => .receiveCommand script.receive
  | .parseDiceRoll => .parseDiceRoll fun _ text => script.replace text
  | .cardEntryChange => .cardEntryChange (announce id)
  | .messageReaction => .messageReaction fun reaction => ⟨script.stop == some reaction.emoji, []⟩
  | .beforeDiceRoll => .beforeDiceRoll script.changes.run
  | .afterDiceRoll => .afterDiceRoll script.changes.run

end HookScript

def CallbackScript.run (script : CallbackScript) : AliasCallback := fun group context =>
  (group script.group).map fun kept =>
    script.before ++ String.ofList kept ++ (if script.namesSender then context.username else "")

/-! Reading -/

def RollChanges.decode : Decoder RollChanges := fun json => do
  let record ← json.objectRecord? ["expression", "description", "hidden", "quiet", "vs", "times",
    "modifier", "no_skills", "no_rolls"]
  return ⟨← record.optional "expression" .string, ← record.optional "description" .string,
    ← record.optional "hidden" .bool, ← record.optional "quiet" .bool,
    ← record.optional "vs" .bool, ← record.optional "times" .count,
    ← record.optional "modifier" .word, ← record.withDefault "no_skills" .bool false,
    ← record.withDefault "no_rolls" .bool false⟩

/-- A pair of texts. -/
def pairOfTexts : Decoder (String × String)
  | .array [.string first, .string second] => some (first, second)
  | _ => none

def HookScript.decode : Decoder HookScript := fun json => do
  let record ← json.objectRecord? ["say", "stop", "replace", "set"]
  return ⟨← record.optional "say" .string, ← record.optional "stop" .string,
    ← record.optional "replace" pairOfTexts,
    ← record.withDefault "set" RollChanges.decode .none⟩

def Hook.decode : Decoder Hook := fun json => do
  let record ← json.objectRecord? ["id", "kind", "default_enabled"]
  let id ← record.required "id" .string
  let kind ← record.required "kind" HookKind.decode
  let enabled ← record.withDefault "default_enabled" .bool true
  let script ← HookScript.decode json
  return ⟨id, enabled, script.action id kind⟩

def CallbackScript.decode : Decoder CallbackScript := fun json => do
  let record ← json.objectRecord? ["group", "before", "name"]
  return ⟨← record.required "group" .string, ← record.withDefault "before" .string "",
    ← record.withDefault "name" .bool false⟩

def PluginAlias.decode : Decoder PluginAlias := fun json => do
  let record ← json.objectRecord? ["callback"]
  let callback ← record.optional "callback" CallbackScript.decode
  return ⟨← AliasRule.decode json, callback.map CallbackScript.run⟩

def Preference.decode : Decoder Preference
  | .array [.string key, .string label, .string standard] => some ⟨key, label, standard⟩
  | _ => none

def Plugin.decode : Decoder Plugin := fun json => do
  let record ← json.objectRecord?
    ["id", "name", "version", "deciders", "aliases", "texts", "hooks", "preferences"]
  let id ← record.required "id" .string
  return { id := id
           name := ← record.withDefault "name" .string id
           version := ← record.withDefault "version" .count 1
           deciders := ← record.withDefault "deciders" (.list Decider.decode) []
           aliases := ← record.withDefault "aliases" (.list PluginAlias.decode) []
           texts := ← record.withDefault "texts" (.list Reply.TextSet.decode) []
           hooks := ← record.withDefault "hooks" (.list Hook.decode) []
           preferences := ← record.withDefault "preferences" (.list Preference.decode) [] }

end Tabletop
