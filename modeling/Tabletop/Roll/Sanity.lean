/-
This file defines sanity checks.

A command names the loss of a success and that of a failure, with a slash between them, and
sometimes a value that stands for that of the card.
-/

import Tabletop.Roll.Scene

namespace Tabletop

structure SanityRoll where
  source : String
  /-- The name of the card that loses sanity. -/
  card : Option String
  /-- The value stands in the command itself. -/
  isInline : Bool
  /-- The sanity before and after the check. -/
  change : Option (Int × Int)
  output : String
deriving DecidableEq, Repr

namespace SanityRoll

open Text Number

/-- A check that is yet to be made. -/
def new (source : String) : SanityRoll :=
  ⟨source, none, false, none, ""⟩

structure Command where
  success : List Char
  failure : List Char
  /-- The digits of a value. -/
  value : Option (List Char)
deriving DecidableEq, Repr

/-- Reads the text behind the slash. -/
def readFailure? (success : List Char) (text : List Char) : Option Command :=
  match words text with
  | [failure] => some ⟨success, failure, none⟩
  | [failure, value] =>
    if value.all isDecimal then some ⟨success, failure, some value⟩ else none
  | _ => none

/-- Reads a command. -/
def readCommand? (text : List Char) : Option Command :=
  let text := trim text
  let success := text.takeWhile fun char => !isBlank char && char != '/'
  match success, trimStart (text.drop success.length) with
  | _ :: _, '/' :: rest => readFailure? success rest
  | _, _ => none

/-- The value that is checked: that of the command, or else that of the card. -/
def checked? (scene : Scene) (inline : Option Int) : Option Int :=
  inline.or ((scene.card?.bind (·.entryOf? CocCard.sanity)).map (·.value))

/-- Rolls what is lost. The worst failure loses as much as it can. -/
def rollLoss (command : Command) (level : Option Level) (succeeds : Bool) :
    Step SanityRoll Notation.Result :=
  if level = some .worst then Step.dice (String.ofList command.failure) .maximize
  else if succeeds then Step.dice (String.ofList command.success) .random
  else Step.dice (String.ofList command.failure) .random

/-- The lines of a check. -/
def text (scene : Scene) (check loss : Notation.Result) (level : Option Level) (old new : Int) :
    StateM Faces String := do
  let base := scene.bindings
  let judged ← scene.renderLevel level
  let first ← scene.render "roll.sc.first" (((base.insert "掷骰输出" check.output).insert
    "目标值" (intText old)).insert "判定" judged)
  let second ← scene.render "roll.sc.second" (base.insert "掷骰输出" loss.output)
  let third ← scene.render "roll.sc.third"
    ((base.insert "旧值" (intText old)).insert "新值" (intText new))
  return "\n".intercalate [first, second, third]

/-- Checks a value. Without a decider a roll up to the value succeeds. -/
def check (scene : Scene) (command : Command) (old : Int) : Step SanityRoll Unit := do
  let check ← Step.dice "d100" .random
  let level := scene.setup.decide .coc ⟨old, old, check.total, none⟩
  let succeeds := match level with
    | some level => level.isSuccess
    | none => check.total ≤ old
  let loss ← rollLoss command level succeeds
  let new := max (wrap (old - loss.total)) 0
  let shown ← text scene check loss level old new
  modify fun roll => { roll with change := some (old, new), output := shown }

def roll (scene : Scene) : Step SanityRoll Unit := do
  let unsupported : Step SanityRoll Unit := do
    let shown ← scene.render "roll.sc.unsupported" scene.bindings
    modify fun roll => { roll with output := shown }
  match readCommand? (← get).source.toList with
  | none => unsupported
  | some command =>
    let inline := command.value.bind readWord?
    match checked? scene inline with
    | none => unsupported
    | some old =>
      modify fun roll => { roll with
        isInline := inline.isSome
        card := scene.card?.map Card.name }
      check scene command old

/-- Writes the new sanity to the card. -/
def apply (roll : SanityRoll) (now : Instant) (board : Board) :
    Except Fault (Board × List String) :=
  match roll.change, roll.card, roll.isInline with
  | some (_, new), some name, false =>
    board.changeCard name fun card => card.setEntry now CocCard.sanity new
  | _, _, _ => .ok (board, [])

end SanityRoll

end Tabletop
