/-
This file defines initiative rolls and the commands for initiative lists.
-/

import Tabletop.Notation.Bonus
import Tabletop.Notation.Parser
import Tabletop.Roll.Scene

namespace Tabletop

/-- How a contender gets a place in the order. -/
inductive InitiativeSource where
  | fixed (value : Int)
  | rolled (expression : String)
  | standard
deriving DecidableEq, Repr

structure InitiativeRoll where
  source : String
  contenders : List Contender
  output : String
deriving DecidableEq, Repr

namespace InitiativeRoll

open Text Number

/-- Initiative that is yet to be rolled. -/
def new (source : String) : InitiativeRoll :=
  ⟨source, [], ""⟩

/-- The die of contenders without an expression. -/
def die : String := "d20"

/-- Reads a bonus and the name behind it. The name is in one line. -/
def readBonus? (text : List Char) : Option (List Char × List Char) :=
  let (bonus, rest) := Notation.cutBonus text
  let name := trimStart rest
  if bonus.isEmpty || name.contains '\n' then none else some (bonus, trim name)

/-- Reads a contender: a bonus, a number or an expression, and a name. -/
def readContender (text : List Char) : InitiativeSource × String :=
  let text := trim text
  match readBonus? text with
  | some (bonus, name) =>
    (.rolled (die ++ String.ofList (bonus.filter (· != ' '))), String.ofList name)
  | none =>
    match Notation.split? text with
    | some (head, name) =>
      match readWord? head with
      | some value => (.fixed value, String.ofList name)
      | none => (.rolled (String.ofList head), String.ofList name)
    | none => (.standard, String.ofList text)

/-- The dexterity of the sender's card: its modifier and its value. -/
def dexterity? (scene : Scene) : Option (Int × Int) :=
  match scene.card? with
  | some (.dnd card) =>
    some (card.modifierOf "敏捷", ((card.entryOf? "敏捷").map (·.value)).getD 0)
  | _ => none

/-- The expression of a contender without one, and the number that parts ties. -/
def standardRoll (scene : Scene) (isActor : Bool) : String × Int :=
  match dexterity? scene, isActor with
  | some (modifier, score), true => (Notation.withBonus die modifier, score)
  | _, _ => (die, 0)

/-- The numbers of a contender and how the first one came about. -/
def rollNumbers (scene : Scene) (isActor : Bool) :
    InitiativeSource → Step InitiativeRoll (Int × String × Int)
  | .fixed value => return (value, intText value, 0)
  | .rolled expression => do
    let result ← Step.dice expression .random
    return (result.total, result.output, 0)
  | .standard => do
    let (expression, second) := standardRoll scene isActor
    let result ← Step.dice expression .random
    return (result.total, result.output, second)

/-- Rolls for one contender. A contender without a name is the sender's. -/
def rollContender (scene : Scene) (text : String) : Step InitiativeRoll String := do
  let (source, name) := readContender text.toList
  let (first, shown, second) ← rollNumbers scene name.isEmpty source
  let contender : Contender :=
    if name.isEmpty then
      .actor scene.context.user (scene.bindings.getD "人物卡名" "") first second
    else .npc name first second
  let line ← scene.render "roll.ri.line"
    ((scene.bindings.insert "人物名" contender.name).insert "掷骰输出" shown)
  modify fun roll => { roll with contenders := roll.contenders ++ [contender] }
  return line

def roll (scene : Scene) : Step InitiativeRoll Unit := do
  let parts := Command.list (← get).source.toList
  let lines ← (if parts.isEmpty then [""] else parts).mapM (rollContender scene)
  modify fun roll => { roll with output := "\n".intercalate lines }

/-- Puts the contenders on the channel's list. -/
def apply (roll : InitiativeRoll) (context : Context) (board : Board) : Board :=
  { board with
    initiative := roll.contenders.foldl (·.upsert context.channel ·) board.initiative }

end InitiativeRoll

/-- What a command for an initiative list asks for. -/
inductive InitiativeListAction where
  | view
  | clear
  | delete (names : List String)
deriving DecidableEq, Repr

structure InitiativeListRoll where
  action : InitiativeListAction
  output : String
deriving DecidableEq, Repr

namespace InitiativeListRoll

open Text Number

/-- Reads a command. -/
def parse (text : List Char) : InitiativeListAction :=
  let text := trim text
  if (Command.afterAnyKeyword? ["clr", "clear"] text).isSome then .clear
  else
    match Command.afterAnyKeyword? ["del", "rm"] text with
    | some rest => .delete (Command.list rest)
    | none => .view

/-- A command that is yet to be done. -/
def new (source : String) : InitiativeListRoll :=
  ⟨parse source.toList, ""⟩

/-- The lines of a list. -/
def listText (scene : Scene) (contenders : List Contender) : StateM Faces String := do
  let start ← scene.render "roll.ri.list" scene.bindings
  let lines ← contenders.zipIdx.mapM fun (contender, index) =>
    scene.render "roll.ri.item" (((scene.bindings.insert "序号" (natText (index + 1))).insert
      "人物名" contender.name).insert "先攻值" (intText contender.first))
  return "\n".intercalate (start :: lines)

def text (scene : Scene) : InitiativeListAction → StateM Faces String
  | .view =>
    match scene.board.initiative.list scene.context.channel with
    | [] => scene.render "roll.ri.empty" scene.bindings
    | contenders => listText scene contenders
  | .clear => scene.render "roll.ri.clear" scene.bindings
  | .delete names =>
    scene.render "roll.ri.del" (scene.bindings.insert "人物名" ("、".intercalate names))

def roll (scene : Scene) : Step InitiativeListRoll Unit := do
  let output ← text scene (← get).action
  modify fun roll => { roll with output := output }

/-- Changes the channel's list. -/
def apply (roll : InitiativeListRoll) (context : Context) (board : Board) : Board :=
  match roll.action with
  | .view => board
  | .clear => { board with initiative := board.initiative.clear context.channel }
  | .delete names =>
    { board with initiative := (board.initiative.remove context.channel names).1 }

end InitiativeListRoll

end Tabletop
