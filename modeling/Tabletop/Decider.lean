/-
This file decides how well a roll succeeds.
-/

import Tabletop.Json.Decode
import Tabletop.Rule.Eval
import Tabletop.Rule.Parser

namespace Tabletop

/-- The levels of success, from the worst to the best. -/
inductive Level where
  | worst
  | failure
  | success
  | hard
  | extreme
  | best
deriving DecidableEq, Repr

namespace Level

def all : List Level :=
  [.worst, .failure, .success, .hard, .extreme, .best]

def isSuccess : Level → Bool
  | .worst => false
  | .failure => false
  | _ => true

def name : Level → String
  | .worst => "大失败"
  | .failure => "失败"
  | .success => "成功"
  | .hard => "困难成功"
  | .extreme => "极难成功"
  | .best => "大成功"

/-- The key of the reply text for a level. -/
def textKey : Level → String
  | .worst => "test.worst"
  | .failure => "test.failure"
  | .success => "test.success"
  | .hard => "test.hard"
  | .extreme => "test.extreme"
  | .best => "test.best"

/-- The place of a level in the order. -/
def rank : Level → Nat
  | .worst => 0
  | .failure => 1
  | .success => 2
  | .hard => 3
  | .extreme => 4
  | .best => 5

end Level

/-- A level and the expression that grants it. -/
structure DeciderRule where
  level : Level
  expression : String
deriving DecidableEq, Repr

/-- A list of rules of which the first that holds decides. -/
structure Decider where
  id : String
  name : String
  description : String
  rules : List DeciderRule
deriving DecidableEq, Repr

/-- What a decision is about. -/
structure Attempt where
  base : Int
  target : Int
  roll : Int
  firstD20 : Option Int
deriving DecidableEq, Repr

namespace Attempt

/-- The names that rules may use. -/
def names : List String :=
  ["baseValue", "targetValue", "roll", "firstD20"]

/-- The numbers behind the names. Without a d20 its face is zero. -/
def bindings {α : Type} (arithmetic : Rule.Arithmetic α) (attempt : Attempt) :
    Rule.Variables α :=
  .ofList [("baseValue", arithmetic.ofInt attempt.base),
    ("targetValue", arithmetic.ofInt attempt.target),
    ("roll", arithmetic.ofInt attempt.roll),
    ("firstD20", arithmetic.ofInt (attempt.firstD20.getD 0))]

end Attempt

namespace DeciderRule

/-- The rule holds for an attempt. -/
def holds {α : Type} (arithmetic : Rule.Arithmetic α) (rule : DeciderRule) (attempt : Attempt) :
    Except Rule.Error Bool := do
  let expr ← Rule.compileWith Attempt.names rule.expression.toList
  let value ← expr.eval arithmetic (attempt.bindings arithmetic)
  return value.isTruthy arithmetic

/-- The level of the first rule that holds. A rule that fails ends the search. -/
def firstHolding {α : Type} (arithmetic : Rule.Arithmetic α) (attempt : Attempt) :
    List DeciderRule → Option Level
  | [] => none
  | rule :: others =>
    match rule.holds arithmetic attempt with
    | .ok true => some rule.level
    | .ok false => firstHolding arithmetic attempt others
    | .error _ => none

end DeciderRule

namespace Decider

/-- The level of an attempt under exact or floating arithmetic. -/
def decideOver {α : Type} (arithmetic : Rule.Arithmetic α) (decider : Decider)
    (attempt : Attempt) : Option Level :=
  DeciderRule.firstHolding arithmetic attempt decider.rules

/-- The level of an attempt. -/
def decide (decider : Decider) (attempt : Attempt) : Option Level :=
  decider.decideOver Rule.floating attempt

def coc0 : Decider where
  id := "coc0"
  name := "COC 默认规则"
  description := "出 1 大成功，出 100 大失败，不区分困难与极难"
  rules :=
    [⟨.worst, "roll == 100"⟩,
     ⟨.best, "roll == 1"⟩,
     ⟨.failure, "roll > targetValue"⟩,
     ⟨.success, "roll <= targetValue"⟩]

def coc1 : Decider where
  id := "coc1"
  name := "COC 房规一"
  description := "出 1-5 且 ≤ 成功率大成功，出 96-100 且 > 成功率大失败"
  rules :=
    [⟨.worst, "roll >= 96 && roll > targetValue"⟩,
     ⟨.best, "roll <= 5 && roll <= targetValue"⟩,
     ⟨.failure, "roll > targetValue"⟩,
     ⟨.extreme, "roll <= targetValue / 5"⟩,
     ⟨.hard, "roll <= targetValue / 2"⟩,
     ⟨.success, "roll <= targetValue"⟩]

def coc2 : Decider where
  id := "coc2"
  name := "COC 规则书"
  description := "成功率 < 50 时出 96-100 大失败，否则出 100 大失败；出 1 大成功"
  rules :=
    [⟨.worst, "baseValue < 50 ? roll >= 96 : roll == 100"⟩,
     ⟨.best, "roll == 1"⟩,
     ⟨.failure, "roll > targetValue"⟩,
     ⟨.extreme, "roll <= targetValue / 5"⟩,
     ⟨.hard, "roll <= targetValue / 2"⟩,
     ⟨.success, "roll <= targetValue"⟩]

def dnd0 : Decider where
  id := "dnd0"
  name := "DND 默认规则"
  description := "d20 出 20 大成功，出 1 大失败，≥ DC 成功"
  rules :=
    [⟨.worst, "firstD20 == 1"⟩,
     ⟨.best, "firstD20 == 20"⟩,
     ⟨.success, "roll >= targetValue"⟩,
     ⟨.failure, "roll < targetValue"⟩]

/-- The deciders that need no plugin. -/
def embedded : List Decider :=
  [coc0, coc1, coc2, dnd0]

end Decider

namespace Level

def decode : Decoder Level :=
  .choice (all.map fun level => (level.name, level))

end Level

namespace DeciderRule

def toJson (rule : DeciderRule) : Json :=
  .object [("level", .string rule.level.name), ("expression", .string rule.expression)]

def decode : Decoder DeciderRule := fun json => do
  let record ← json.record? ["level", "expression"]
  return { level := ← record.required "level" Level.decode
           expression := ← record.required "expression" .string }

end DeciderRule

namespace Decider

def toJson (decider : Decider) : Json :=
  .object [("id", .string decider.id), ("name", .string decider.name),
    ("description", .string decider.description),
    ("rules", .ofList DeciderRule.toJson decider.rules)]

def decode : Decoder Decider := fun json => do
  let record ← json.record? ["id", "name", "description", "rules"]
  return { id := ← record.required "id" .string
           name := ← record.required "name" .string
           description := ← record.withDefault "description" .string ""
           rules := ← record.required "rules" (.list DeciderRule.decode) }

end Decider

end Tabletop
