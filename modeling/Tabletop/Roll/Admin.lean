/-
This file defines commands that make, delete and list cards.
-/

import Tabletop.Roll.Scene

namespace Tabletop

/-- What a command for cards asks for. -/
inductive AdminAction where
  | make (kind : CardKind) (name : Option String)
  | delete (name : Option String)
  | list
deriving DecidableEq, Repr

structure AdminRoll where
  action : AdminAction
  /-- The name of the card that is made or deleted. -/
  target : Option String
  output : String
deriving DecidableEq, Repr

namespace AdminRoll

open Text

/-- A text as a name, unless it is empty. -/
def name? (text : List Char) : Option String :=
  if text.isEmpty then none else some (String.ofList text)

/-- Reads the kind and the name of a new card. The kind may be left out. -/
def parseNew (text : List Char) : AdminAction :=
  match words text with
  | first :: others =>
    match CardKind.parse? (String.ofList first) with
    | some kind => .make kind (name? (join [' '] others))
    | none => .make .coc (name? text)
  | [] => .make .coc (name? text)

/-- Reads a command. -/
def parse (text : List Char) : AdminAction :=
  let text := trim text
  match Command.afterKeyword? "new".toList text,
    Command.afterAnyKeyword? ["del", "rm"] text with
  | some rest, _ => parseNew rest
  | none, some rest => .delete (name? rest)
  | none, none => .list

/-- A command that is yet to be done. -/
def new (source : String) : AdminRoll :=
  ⟨parse source.toList, none, ""⟩

def reply (text : StateM Faces String) : Step AdminRoll Unit := do
  let output ← text
  modify fun admin => { admin with output := output }

/-- Names the target and replies. -/
def accept (scene : Scene) (name key : String) : Step AdminRoll Unit := do
  modify fun admin => { admin with target := some name }
  reply (scene.render key (scene.bindings.insert "人物卡名" name))

/-- Plans a new card, unless its name is taken. -/
def rollNew (scene : Scene) (name : String) : Step AdminRoll Unit :=
  if scene.board.registry.contains name then
    reply (scene.render "card.exist" (scene.bindings.insert "人物卡名" name))
  else accept scene name "pc.new"

/-- Plans to delete a card. -/
def rollDelete (scene : Scene) : Option String → Step AdminRoll Unit
  | none => reply (scene.render "card.empty" scene.bindings)
  | some name =>
    if !scene.board.registry.contains name then
      reply (scene.render "card.notfound" (scene.bindings.insert "关键词" name))
    else if scene.mayTake name then accept scene name "pc.del"
    else reply (scene.render "card.nopermission" (scene.bindings.insert "人物卡名" name))

/-- The names of all cards in one text. -/
def listed (names : List String) : String :=
  if names.isEmpty then "无" else "、".intercalate names

def roll (scene : Scene) : Step AdminRoll Unit := do
  match (← get).action with
  | .make _ name => rollNew scene (name.getD scene.context.username)
  | .delete name => rollDelete scene (name.or scene.cardName?)
  | .list =>
    reply (scene.render "pc.list"
      (scene.bindings.insert "人物卡列表" (listed scene.board.registry.names)))

/-- Makes or deletes the card. A new card belongs to the sender. -/
def apply (roll : AdminRoll) (now : Instant) (context : Context) (board : Board) :
    Board × List String :=
  match roll.action, roll.target with
  | .make kind _, some name =>
    let registry := board.registry.register (.new kind name now)
    ({ board with registry := registry.link context.channel context.user (some name) }, [name])
  | .delete _, some name => ({ board with registry := board.registry.unregister name }, [])
  | _, _ => (board, [])

end AdminRoll

end Tabletop
