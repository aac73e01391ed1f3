/-
This file expands templates into notation.

References are expanded first: a name of an ability is replaced by the total of its roll, a name of
an entry by its value. Groups in double brackets are rolled next, inner ones first. A dollar sign
with a number stands for the total of an earlier group.
-/

import Tabletop.Card
import Tabletop.Step
import Tabletop.Template.Reference

namespace Tabletop

/-- A roll that was made while a text was expanded. -/
structure InlineRoll where
  /-- The ability that asked for the roll. -/
  label : Option String
  result : Notation.Result
  /-- The total is kept out of the text. -/
  hidden : Bool
deriving DecidableEq, Repr

/-- A step of an expansion. Its record are the rolls so far. -/
abbrev Expanding := Step (List InlineRoll)

namespace Template

open Text

/-- One text may lead to so many others, one through the other. -/
def maxDepth : Nat := 99

def addRoll (roll : InlineRoll) : Expanding Unit :=
  modify (· ++ [roll])

/-- What stands for a roll in the text. -/
def shown (hidden : Bool) (result : Notation.Result) : List Char :=
  if hidden then [] else Number.writeInt result.total

/-- Expands a reference on a card. `inner` expands the expressions of abilities. -/
def expandReference (inner : List Char → Expanding (List Char)) (card : Card)
    (reference : Reference) : Expanding (List Char) := do
  let name := String.ofList reference.name
  match card.ability? name with
  | some ability =>
    let expression ← inner ability.expression.toList
    let result ← Step.dice (String.ofList expression) .random
    addRoll ⟨some ability.key, result, reference.hidden⟩
    return shown reference.hidden result
  | none =>
    match card.entryOf? name with
    | some entry => return Number.writeInt entry.value
    | none => return reference.source

/-- Expands the references of a template. -/
def expandPieces (inner : List Char → Expanding (List Char)) (card : Card) :
    List Piece → Expanding (List Char)
  | [] => return []
  | .char char :: rest => return char :: (← expandPieces inner card rest)
  | .reference reference :: rest => do
    let text ← expandReference inner card reference
    return text ++ (← expandPieces inner card rest)

/-- A text cut at its first inner group. -/
structure GroupCut where
  before : List Char
  inside : List Char
  behind : List Char
deriving DecidableEq, Repr

/-- Cuts a text at the first closing pair of brackets and the last opening pair in front of it. -/
def cutAtGroup? (text : List Char) : Option GroupCut := do
  let (head, behind) ← cutAt? [']', ']'] text
  let (before, inside) ← cutAtLast? ['[', '['] head
  return ⟨before, inside, behind⟩

/-- Rolls the groups of a text. The totals are those of the earlier groups. Every round takes two
opening brackets away, so the fuel is at least their number. -/
def rollGroups : (fuel : Nat) → (totals : List Int) → List Char →
    Expanding (List Char × List Int)
  | 0, totals, text => return (text, totals)
  | fuel + 1, totals, text =>
    match cutAtGroup? text with
    | none => return (text, totals)
    | some cut => do
      let (hidden, body) := match cut.inside with
        | '!' :: body => (true, body)
        | body => (false, body)
      let result ← Step.dice (String.ofList (withTotals totals body)) .random
      addRoll ⟨none, result, hidden⟩
      rollGroups fuel (totals ++ [result.total])
        (cut.before ++ shown hidden result ++ cut.behind)

/-- Expands a text that has room for fewer than `room` expressions of abilities one in the other. -/
def expandWithin (card : Option Card) : (room : Nat) → List Char → Expanding (List Char)
  | 0, text => throw (.tooDeep (String.ofList text))
  | room + 1, text => do
    let text ← match card with
      | some card => expandPieces (expandWithin (some card) room) card (pieces text)
      | none => pure text
    let (text, totals) ← rollGroups (text.count '[') [] text
    return withTotals totals text

/-- Expands a text. -/
def expand (card : Option Card) (text : List Char) : Expanding (List Char) :=
  expandWithin card (maxDepth + 1) text

end Template

end Tabletop
