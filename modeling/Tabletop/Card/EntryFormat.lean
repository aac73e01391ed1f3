/-
This file writes the entries, abilities and changes of cards as JSON.
-/

import Tabletop.Card.Entry
import Tabletop.Json.Value

namespace Tabletop

def EntryKind.name : EntryKind → String
  | .props => "Props"
  | .skills => "Skills"
  | .basic => "Basic"
  | .computed => "Computed"

def Difficulty.name : Difficulty → String
  | .normal => "Normal"
  | .hard => "Hard"
  | .extreme => "Extreme"

def Postfix.name : Postfix → String
  | .modifier => "Modifier"
  | .saving => "Saving"

def EntryModifier.toJson : EntryModifier → Json
  | .none => .string "None"
  | .difficulty level => .object [("Difficulty", .string level.name)]
  | .ofPostfix postfixKind => .object [("Postfix", .string postfixKind.name)]

def Entry.toJson (entry : Entry) : Json :=
  .object [("input", .string entry.input), ("key", .string entry.key), ("value", .int entry.value),
    ("base_value", .int entry.baseValue), ("is_temp", .bool entry.isTemporary),
    ("readonly", .bool entry.isReadonly), ("kind", .string entry.kind.name),
    ("modifier", entry.modifier.toJson)]

def Ability.toJson (ability : Ability) : Json :=
  .object [("input", .string ability.input), ("key", .string ability.key),
    ("expression", .string ability.expression), ("readonly", .bool ability.isReadonly)]

def ChangedValue.toJson : ChangedValue → Json
  | .entry old new =>
    .object [("kind", .string "entry"), ("old", .ofOption .int old), ("new", .int new)]
  | .ability old new =>
    .object [("kind", .string "ability"), ("old", .ofOption .string old), ("new", .string new)]
  | .growthMark marked => .object [("kind", .string "growth_mark"), ("marked", .bool marked)]

def CardChange.toJson (change : CardChange) : Json :=
  .object [("card_name", .string change.cardName), ("key", .string change.key),
    ("value", change.value.toJson)]

end Tabletop
