/-
This file rolls dice notation.
-/

import Tabletop.Faces
import Tabletop.Notation.Parser

namespace Tabletop.Notation

open Number

/-- How faces are chosen: from the source, or the highest or lowest one of every die. -/
inductive Mode where
  | random
  | maximize
  | minimize
deriving DecidableEq, Repr

/-- A die that was rolled. A die that exploded brought another one. -/
structure Die where
  sides : Nat
  value : Nat
  kept : Bool
  exploded : Bool
deriving DecidableEq, Repr

/-- The face, with marks for an explosion and for a die that does not count. -/
def Die.text (die : Die) : List Char :=
  writeNat die.value ++ (if die.exploded then ['!'] else []) ++ (if die.kept then [] else ['d'])

/-- What rolling an expression yields. The working is the notation with faces for its terms. -/
structure Outcome where
  total : Int
  working : List Char
  dice : List Die
deriving DecidableEq, Repr

/-- A step that takes faces and can fail. Faces stay taken when it fails. -/
abbrev Rolling := ExceptT Error (StateM Faces)

/-- The most dice that explosions add to one term. -/
def maxExplosions : Nat := 100

def face (mode : Mode) (sides : Nat) : StateM Faces Nat :=
  match mode with
  | .random => Faces.draw 1 sides
  | .maximize => pure sides
  | .minimize => pure 1

/-- Rolls one die and what its explosions add. It gives back the explosions that are left. -/
def rollDie (mode : Mode) (sides : Nat) : Nat → StateM Faces (List Die × Nat)
  | 0 => do
    let value ← face mode sides
    return ([⟨sides, value, true, false⟩], 0)
  | left + 1 => do
    let value ← face mode sides
    if value = sides then
      let (dice, unused) ← rollDie mode sides left
      return (⟨sides, value, true, true⟩ :: dice, unused)
    else return ([⟨sides, value, true, false⟩], left + 1)

/-- Rolls `count` dice that share the explosions that are left. -/
def rollDice (mode : Mode) (sides : Nat) : (count explosions : Nat) → StateM Faces (List Die)
  | 0, _ => return []
  | count + 1, explosions => do
    let (dice, left) ← rollDie mode sides explosions
    return dice ++ (← rollDice mode sides count left)

/-- The explosions that a term may have. -/
def DiceTerm.explosions (term : DiceTerm) (mode : Mode) : Nat :=
  if term.explode && 1 < term.sides && mode = .random then maxExplosions else 0

/-- The places of the dice from the highest face to the lowest. Equal faces stay in order. -/
def placesByFace (dice : List Die) : List Nat :=
  (dice.zipIdx.mergeSort fun left right => right.1.value ≤ left.1.value).map (·.2)

/-- The places of the dice that the selector keeps. -/
def Selector.keptPlaces (selector : Selector) (dice : List Die) : List Nat :=
  let places := placesByFace dice
  match selector.selection with
  | .keepHighest => places.take selector.count
  | .keepLowest => places.reverse.take selector.count
  | .dropHighest => places.reverse.take (dice.length - selector.count)
  | .dropLowest => places.take (dice.length - selector.count)

/-- Marks exactly the dice that the selector keeps. -/
def Selector.mark (selector : Selector) (dice : List Die) : List Die :=
  let kept := selector.keptPlaces dice
  dice.zipIdx.map fun (die, place) => { die with kept := kept.contains place }

/-- The sum of the kept faces. -/
def keptSum (dice : List Die) : Nat :=
  Number.total ((dice.filter (·.kept)).map (·.value))

def diceText (dice : List Die) : List Char :=
  ['['] ++ Text.join [',', ' '] (dice.map Die.text) ++ [']']

/-- Rolls a term. -/
def DiceTerm.roll (term : DiceTerm) (mode : Mode) : StateM Faces Outcome := do
  let rolled ← rollDice mode term.sides term.count (term.explosions mode)
  let dice := match term.selector with
    | some selector => selector.mark rolled
    | none => rolled
  return ⟨keptSum dice, diceText dice, dice⟩

/-- The number, when it fits into 64 bits. -/
def exact (number : Int) : Except Error Int :=
  if isWord number then .ok number else .error .overflow

/-- The value of an operation. Division drops the fraction. -/
def Operation.apply (operation : Operation) (left right : Int) : Except Error Int :=
  match operation with
  | .add => exact (left + right)
  | .subtract => exact (left - right)
  | .multiply => exact (left * right)
  | .divide => if right = 0 then .error .divisionByZero else exact (left.tdiv right)

/-- Rolls an expression from left to right. -/
def Expr.roll (mode : Mode) : Expr → Rolling Outcome
  | .constant value => return ⟨value, writeNat value, []⟩
  | .dice term => term.roll mode
  | .negate inner => do
    let outcome ← inner.roll mode
    let total ← exact (-outcome.total)
    return ⟨total, '-' :: outcome.working, outcome.dice⟩
  | .group inner => do
    let outcome ← inner.roll mode
    return { outcome with working := ['('] ++ outcome.working ++ [')'] }
  | .binary left operation right => do
    let leftOutcome ← left.roll mode
    let rightOutcome ← right.roll mode
    let total ← operation.apply leftOutcome.total rightOutcome.total
    return ⟨total, leftOutcome.working ++ operation.token.text ++ rightOutcome.working,
      leftOutcome.dice ++ rightOutcome.dice⟩

/-- A rolled notation: its text without white space, its working, its total and its dice. -/
structure Result where
  written : String
  working : String
  total : Int
  dice : List Die
deriving DecidableEq, Repr

/-- Reads a text as notation and rolls it. -/
def roll (text : String) (mode : Mode) : Rolling Result := do
  let expr ← parse text.toList
  let outcome ← expr.roll mode
  return ⟨String.ofList (Text.squeeze text.toList), String.ofList outcome.working, outcome.total,
    outcome.dice⟩

/-- The notation, the working and the total in one line. -/
def Result.output (result : Result) : String :=
  result.written ++ ": " ++ result.working ++ " = " ++ String.ofList (writeInt result.total)

/-- The face of the first die with so many sides. -/
def Result.firstFace? (result : Result) (sides : Nat) : Option Nat :=
  (result.dice.find? (·.sides == sides)).map (·.value)

end Tabletop.Notation
