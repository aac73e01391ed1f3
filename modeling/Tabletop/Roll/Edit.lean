/-
This file defines commands that show and edit the sender's card.

New values are tried on a copy of the card when the command is rolled. Applying it writes the same
values to the card itself.
-/

import Tabletop.Roll.Edit.Command
import Tabletop.Roll.Scene

namespace Tabletop

/-- A value that is written to an entry. -/
structure EntryWrite where
  input : String
  key : String
  /-- How the value was rolled, if it was. -/
  roll : Option String
  old : Option Int
  /-- The value that is written. -/
  requested : Int
  /-- The value that the card keeps. -/
  new : Int
deriving DecidableEq, Repr

structure EditRoll where
  edit : Option Edit
  /-- The name of the card. -/
  card : Option String
  writes : List EntryWrite
  output : String
deriving DecidableEq, Repr

namespace EditRoll

open Number

/-- A command that is yet to be done. -/
def new (source : String) : EditRoll :=
  ⟨Edit.parse? source.toList, none, [], ""⟩

/-- The number of a value: a plain one, or the total of a roll with its text. -/
def amount (value : List Char) : Step EditRoll (Int × Option String) := do
  match readWord? value with
  | some number => return (number, none)
  | none =>
    let result ← Step.dice (String.ofList value) .random
    return (result.total, some result.output)

/-- The number that an operation asks to write. -/
def requested (operation : EditOperation) (old : Option Int) (amount : Int) : Int :=
  match operation with
  | .assign => amount
  | .add => wrap (old.getD 0 + amount)
  | .subtract => wrap (old.getD 0 - amount)

/-- Writes a number to a card, or fails with the card's fault. -/
def write (now : Instant) (card : Card) (input : String) (value : Int) : Step EditRoll Card :=
  match card.setEntry now input value with
  | .ok (card, _) => return card
  | .error fault => throw (.fault fault)

/-- Tries an assignment on a card. -/
def preview (now : Instant) (card : Card) (assignment : Assignment) : Step EditRoll Card := do
  let input := String.ofList assignment.name
  let (amount, roll) ← amount assignment.value
  let old := (card.entryOf? input).map (·.value)
  let value := requested assignment.operation old amount
  let card ← write now card input value
  let after := card.entryOf? input
  modify fun edit => { edit with
    writes := edit.writes ++ [
      { input := input
        key := (after.map (·.key)).getD input
        roll := roll
        old := old
        requested := value
        new := (after.map (·.value)).getD value }] }
  return card

def reply (text : StateM Faces String) : Step EditRoll Unit := do
  let output ← text
  modify fun edit => { edit with output := output }

/-- How an entry or an ability of a card is shown. -/
def shown (card : Card) (name : String) : String :=
  match card.entryOf? name, card.ability? name with
  | some entry, _ => entry.key ++ ":" ++ intText entry.value
  | none, some ability => ability.key ++ "=" ++ ability.expression
  | none, none => name ++ ":-"

/-- The variables for a write. Those of missing numbers stay empty. -/
def writeVariables (base : Reply.Variables) (write : EntryWrite) : Reply.Variables :=
  let base := (base.insert "条目" write.key).insert "新值" (intText write.new)
  let base := match write.roll with
    | some roll => base.insert "掷骰输出" roll
    | none => base
  match write.old with
  | some old => base.insert "旧值" (intText old)
  | none => base

def writesText (scene : Scene) (writes : List EntryWrite) : StateM Faces String := do
  if writes.isEmpty then scene.render "roll.st.unsupported" scene.bindings
  else
    let prompt ← scene.render "roll.st.prompt" scene.bindings
    let lines ← writes.mapM fun write =>
      scene.render "roll.st.line" (writeVariables scene.bindings write)
    return "\n".intercalate (prompt :: lines)

def abilityText (scene : Scene) (name expression : String) : StateM Faces String := do
  let prompt ← scene.render "roll.st.prompt" scene.bindings
  let line ← scene.render "roll.st.ability"
    ((scene.bindings.insert "条目" name).insert "表达式" expression)
  return prompt ++ "\n" ++ line

/-- Does what a command asks for on a card. -/
def rollEdit (scene : Scene) (now : Instant) (card : Card) : Option Edit → Step EditRoll Unit
  | none => reply (scene.render "roll.st.unsupported" scene.bindings)
  | some (.view names) =>
    let text := if names.isEmpty then card.summary else " ".intercalate (names.map (shown card))
    reply (scene.render "roll.st.show" (scene.bindings.insert "条目" text))
  | some (.ability name expression) => reply (abilityText scene name expression)
  | some (.values assignments) => do
    let _ ← assignments.foldlM (preview now) card
    reply (writesText scene (← get).writes)

def roll (scene : Scene) (now : Instant) : Step EditRoll Unit := do
  match scene.card? with
  | none => reply (scene.render "card.empty" scene.bindings)
  | some card =>
    modify fun edit => { edit with card := some card.name }
    rollEdit scene now card (← get).edit

/-- Writes values to a card. It tells whether something changed. -/
def writeAll (now : Instant) (writes : List EntryWrite) (card : Card) :
    Except Fault (Card × Bool) :=
  writes.foldlM (fun (card, changed) write => do
    let (card, written) ← card.setEntry now write.input write.requested
    return (card, changed || written)) (card, false)

/-- Writes to the card itself. -/
def apply (roll : EditRoll) (now : Instant) (board : Board) :
    Except Fault (Board × List String) :=
  match roll.card, roll.edit with
  | some name, some edit => board.changeCard name fun card =>
    match edit with
    | .view _ => .ok (card, false)
    | .ability name expression => .ok (card.setAbility now name expression)
    | .values _ => writeAll now roll.writes card
  | _, _ => .ok (board, [])

end EditRoll

end Tabletop
