/-
This file defines alias rules.
-/

import Tabletop.Json.Decode

namespace Tabletop

/-- Which texts an alias rule applies to: the expressions of rolls or whole commands. -/
inductive AliasScope where
  | expression
  | command
deriving DecidableEq, Repr

/-- What an alias rule looks for, and what it puts in its place. -/
inductive AliasTrigger where
  /-- A literal text with slots for numbers. The replacement has slots for expressions. -/
  | literal (text replacement : String)
  /-- A pattern. The replacement has references to groups. -/
  | pattern (text : String) (replacement : Option String)
deriving DecidableEq, Repr

structure AliasRule where
  id : String
  name : String
  description : String
  scope : AliasScope
  trigger : AliasTrigger
  defaultEnabled : Bool
deriving DecidableEq, Repr

namespace AliasScope

def name : AliasScope → String
  | .expression => "expression"
  | .command => "command"

def decode : Decoder AliasScope :=
  .choice ([expression, command].map fun scope => (scope.name, scope))

end AliasScope

namespace AliasTrigger

def toJson : AliasTrigger → Json
  | .literal text replacement =>
    .object [("type", .string "naive"), ("pattern", .string text),
      ("replacer", .string replacement)]
  | .pattern text replacement =>
    .object [("type", .string "regex"), ("pattern", .string text),
      ("replacer", .ofOption .string replacement)]

def decode : Decoder AliasTrigger := fun json => do
  let record ← json.record? ["type", "pattern", "replacer"]
  let text ← record.required "pattern" .string
  match ← record.required "type" .string with
  | "naive" => return .literal text (← record.required "replacer" .string)
  | "regex" => return .pattern text (← record.optional "replacer" .string)
  | _ => none

end AliasTrigger

namespace AliasRule

def toJson (rule : AliasRule) : Json :=
  .object [("id", .string rule.id), ("name", .string rule.name),
    ("description", .string rule.description), ("scope", .string rule.scope.name),
    ("trigger", rule.trigger.toJson), ("defaultEnabled", .bool rule.defaultEnabled)]

def decode : Decoder AliasRule := fun json => do
  let record ← json.record? ["id", "name", "description", "scope", "trigger", "defaultEnabled"]
  return { id := ← record.required "id" .string
           name := ← record.required "name" .string
           description := ← record.withDefault "description" .string ""
           scope := ← record.required "scope" AliasScope.decode
           trigger := ← record.required "trigger" AliasTrigger.decode
           defaultEnabled := ← record.withDefault "defaultEnabled" .bool true }

/-- Bonus dice. -/
def bonusDice : AliasRule where
  id := "rb"
  name := "奖励骰"
  description := "rb：一个奖励骰，rbX：X 个奖励骰"
  scope := .command
  trigger := .literal "rb\x7b\x7bX=1\x7d\x7d" "r\x7b\x7bX+1\x7d\x7dd%kl1"
  defaultEnabled := true

/-- Penalty dice. -/
def penaltyDice : AliasRule where
  id := "rp"
  name := "惩罚骰"
  description := "rp：一个惩罚骰，rpX：X 个惩罚骰"
  scope := .command
  trigger := .literal "rp\x7b\x7bX=1\x7d\x7d" "r\x7b\x7bX+1\x7d\x7dd%kh1"
  defaultEnabled := true

def advantage : AliasRule where
  id := "adv"
  name := "优势"
  description := "adv：两个 d20 取高"
  scope := .expression
  trigger := .literal "adv" "2d20kh1"
  defaultEnabled := true

def disadvantage : AliasRule where
  id := "dis"
  name := "劣势"
  description := "dis：两个 d20 取低"
  scope := .expression
  trigger := .literal "dis" "2d20kl1"
  defaultEnabled := true

/-- The rules that need no plugin. -/
def embedded : List AliasRule :=
  [bonusDice, penaltyDice, advantage, disadvantage]

end AliasRule

end Tabletop
