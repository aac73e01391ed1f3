/-
This file defines what rolls find around them and what they may change.
-/

import Tabletop.Card.Registry
import Tabletop.Initiative
import Tabletop.Setup
import Tabletop.Step

namespace Tabletop

/-- What rolls may change. -/
structure Board where
  registry : Registry
  initiative : Initiative

namespace Board

def empty : Board := ⟨.empty, ∅⟩

/-- Changes a card by its name. It gives the name back if something changed. -/
def changeCard (board : Board) (name : String) (change : Card → Except Fault (Card × Bool)) :
    Except Fault (Board × List String) :=
  match board.registry.get? name with
  | none => .ok (board, [])
  | some card => do
    let (after, changed) ← change card
    let registry := board.registry.update name after
    return ({ board with registry := registry }, if changed then [name] else [])

end Board

/-- What a roll finds around it. -/
structure Scene where
  context : Context
  setup : Setup
  board : Board

namespace Scene

/-- The card that the sender holds. -/
def card? (scene : Scene) : Option Card :=
  scene.board.registry.linkedCard? scene.context.channel scene.context.user

/-- The name of the card that the sender holds. -/
def cardName? (scene : Scene) : Option String :=
  scene.board.registry.linkedName? scene.context.channel scene.context.user

/-- The kind of the sender's card. Users without a card have no game system. -/
def cardKind (scene : Scene) : CardKind :=
  (scene.card?.map Card.kind).getD .general

/-- The sender may take or delete a card: no one else holds it in the channel, or the sender is an
admin. -/
def mayTake (scene : Scene) (card : String) : Bool :=
  let holder := scene.board.registry.links.holder? scene.context.channel card
  scene.context.isAdmin || holder.all (· == scene.context.user)

/-- The variables of all replies. -/
def bindings (scene : Scene) : Reply.Variables :=
  Table.ofPairs [("用户名", scene.context.username),
    ("人物卡名", (scene.card?.map Card.name).getD scene.context.username),
    ("at用户", mention scene.context.user)]

/-- Picks and fills a reply. -/
def render (scene : Scene) (key : String) (bindings : Reply.Variables) : StateM Faces String :=
  scene.setup.render key bindings

/-- Picks and fills the reply for a level. Without a level it is empty. -/
def renderLevel (scene : Scene) (level : Option Level) : StateM Faces String :=
  match level with
  | some level => scene.render level.textKey scene.bindings
  | none => return ""

end Scene

end Tabletop
