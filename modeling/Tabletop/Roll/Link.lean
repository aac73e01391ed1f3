/-
This file defines commands that link the sender to a card.
-/

import Tabletop.Roll.Scene

namespace Tabletop

/-- What a link command asks for. -/
inductive LinkAction where
  | view
  | clear
  | give (keyword : String)
deriving DecidableEq, Repr

structure LinkRoll where
  action : LinkAction
  /-- The name of the card that the sender gets. -/
  target : Option String
  output : String
deriving DecidableEq, Repr

namespace LinkRoll

/-- Reads a command. -/
def parse (text : List Char) : LinkAction :=
  let text := Text.trim text
  if text.isEmpty then .view
  else if Command.afterKeyword? "clr".toList text = some [] then .clear
  else .give (String.ofList text)

/-- A command that is yet to be done. -/
def new (source : String) : LinkRoll :=
  ⟨parse source.toList, none, ""⟩

def reply (text : StateM Faces String) : Step LinkRoll Unit := do
  let output ← text
  modify fun link => { link with output := output }

/-- Chooses one of the cards that were found. -/
def choose (scene : Scene) (keyword : String) : List String → Step LinkRoll Unit
  | [] => reply (scene.render "card.notfound" (scene.bindings.insert "关键词" keyword))
  | [name] => do
    let bindings := scene.bindings.insert "人物卡名" name
    if scene.mayTake name then
      modify fun link => { link with target := some name }
      reply (scene.render "nn.link" bindings)
    else reply (scene.render "card.nopermission" bindings)
  | names =>
    reply (scene.render "card.search"
      (scene.bindings.insert "人物卡列表" ("、".intercalate names)))

def roll (scene : Scene) : Step LinkRoll Unit := do
  match (← get).action with
  | .view =>
    let key := if scene.cardName?.isSome then "nn.show" else "nn.show.empty"
    reply (scene.render key scene.bindings)
  | .clear => reply (scene.render "nn.clear" scene.bindings)
  | .give keyword => choose scene keyword (scene.board.registry.search keyword)

/-- Changes the sender's link. -/
def apply (roll : LinkRoll) (context : Context) (board : Board) : Board :=
  let link (card : Option String) : Board :=
    { board with registry := board.registry.link context.channel context.user card }
  match roll.action, roll.target with
  | .clear, _ => link none
  | .give _, some name => link (some name)
  | _, _ => board

end LinkRoll

end Tabletop
