/-
This file defines death saving throws of the sender's card.
-/

import Tabletop.Card.DeathSave
import Tabletop.Roll.Scene

namespace Tabletop

structure DeathRoll where
  /-- The name of the card. -/
  card : Option String
  outcome : Option DeathSave
  /-- The counters after the throw. -/
  saving : DeathSaving
  output : String
deriving DecidableEq

namespace DeathRoll

open Number

/-- A throw that is yet to be made. -/
def new : DeathRoll :=
  ⟨none, none, ⟨0, 0⟩, ""⟩

/-- One of the counters has come to its limit. -/
def isOver (saving : DeathSaving) : Bool :=
  DeathSave.limit ≤ saving.success || DeathSave.limit ≤ saving.failure

/-- The key of the reply for counters at their limit. -/
def endKey? (saving : DeathSaving) : Option String :=
  if DeathSave.limit ≤ saving.success then some "roll.ds.stable"
  else if DeathSave.limit ≤ saving.failure then some "roll.ds.dead"
  else none

/-- The lines of a throw. -/
def text (scene : Scene) (result : Notation.Result) (outcome : DeathSave) (tally : DeathSaving) :
    StateM Faces String := do
  let start ← scene.render "roll.ds.start" (scene.bindings.insert "掷骰输出" result.output)
  let judged ← scene.render outcome.textKey scene.bindings
  let counted ← scene.render "roll.ds.tally"
    ((scene.bindings.insert "成功次数" (natText (min tally.success DeathSave.limit))).insert
      "失败次数" (natText (min tally.failure DeathSave.limit)))
  let finish ← (endKey? tally).toList.mapM (scene.render · scene.bindings)
  return "\n".intercalate ((start ++ " " ++ judged) :: counted :: finish)

/-- Throws for a card. -/
def rollFor (scene : Scene) (card : DndCard) : Step DeathRoll Unit := do
  let result ← Step.dice "d20" .random
  let outcome := DeathSave.ofFace result.total
  let tally := outcome.tally card.deathSaving
  let shown ← text scene result outcome tally
  set
    { card := some card.core.name
      outcome := some outcome
      saving := if isOver tally then ⟨0, 0⟩ else tally
      output := shown : DeathRoll }

def roll (scene : Scene) : Step DeathRoll Unit := do
  match scene.card? with
  | some (.dnd card) => rollFor scene card
  | _ =>
    let shown ← scene.render "roll.ds.unsupported" scene.bindings
    modify fun roll => { roll with output := shown }

/-- Writes a throw to a card. A revived character has one hit point. -/
def settle (now : Instant) (saving : DeathSaving) (outcome : DeathSave) (card : DndCard) :
    DndCard :=
  let saved := card.setDeathSaving now saving
  if outcome = .revived then (saved.setHitPoints now 1).1 else saved

/-- Writes the throw to the card. -/
def apply (roll : DeathRoll) (now : Instant) (board : Board) :
    Except Fault (Board × List String) :=
  match roll.card, roll.outcome with
  | some name, some outcome => board.changeCard name fun card =>
    match card with
    | .dnd dnd => .ok (.dnd (settle now roll.saving outcome dnd), true)
    | other => .ok (other, false)
  | _, _ => .ok (board, [])

end DeathRoll

end Tabletop
