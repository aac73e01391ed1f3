/-
This file reads the commands of standard rolls: flags, repetitions and named skills.
-/

import Tabletop.Card
import Tabletop.Notation.Bonus
import Tabletop.Roll.State
import Tabletop.Text.Cut

namespace Tabletop.StandardRoll

open Text Number

/-- The most times that one command rolls. -/
def maxTimes : Nat := 10

structure Flags where
  hidden : Bool
  quiet : Bool
  versus : Bool
deriving DecidableEq, Repr

def Flags.none : Flags := ⟨false, false, false⟩

/-- The flags of some letters. -/
def Flags.ofLetters (letters : List Char) : Flags :=
  let lower := letters.map Char.toLower
  ⟨lower.contains 'h', lower.contains 'q', lower.contains 'v'⟩

def isFlag (char : Char) : Bool :=
  ['h', 'q', 'v'].contains char.toLower

/-- Takes the letter for rolls with its flags off a text. Other words than the letter for dice may
not follow. -/
def splitFlags (text : List Char) : Flags × List Char :=
  match text with
  | first :: after =>
    if first.toLower = 'r' then
      let rest := after.dropWhile isFlag
      let isWord := match rest with
        | char :: _ => char.isAlpha && char.toLower != 'd'
        | [] => false
      if isWord then (.none, text) else (.ofLetters (after.takeWhile isFlag), trimStart rest)
    else (.none, text)
  | [] => (.none, text)

/-- How often some digits ask to roll. Digits that cannot be read ask for one roll. -/
def timesOf (digits : List Char) : Nat :=
  max 1 (min ((readBelow? countRange digits).getD 1) maxTimes)

/-- Takes the number of repetitions in front of a number sign off a text. -/
def splitTimes (text : List Char) : Nat × List Char :=
  let digits := text.takeWhile isDecimal
  match digits, trimStart (text.dropWhile isDecimal) with
  | _ :: _, '#' :: rest => (timesOf digits, trimStart rest)
  | _, _ => (1, text)

/-- A name in a description with the signed and the plain number behind it. -/
structure Mention where
  name : List Char
  modifier : List Char
  number : List Char
deriving DecidableEq, Repr

/-- The characters of the names of skills. -/
def isNamePart (char : Char) : Bool :=
  !(isBlank char || isDecimal char || char == '+' || char == '-')

/-- The mention that begins with the first character of a name, and the text behind it. -/
def cutMention (text : List Char) : Mention × List Char :=
  let (modifier, rest) := Notation.cutBonus (trimStart (text.dropWhile isNamePart))
  let rest := trimStart rest
  (⟨text.takeWhile isNamePart, modifier, rest.takeWhile isDecimal⟩, rest.dropWhile isDecimal)

theorem lengthCutMention (text : List Char) :
    (cutMention text).2.length ≤ (text.dropWhile isNamePart).length := by
  have blanks := (List.dropWhile_suffix (l := text.dropWhile isNamePart) isBlank).length_le
  have signed := Notation.lengthCutBonus (trimStart (text.dropWhile isNamePart))
  have behind := (List.dropWhile_suffix
    (l := (Notation.cutBonus (trimStart (text.dropWhile isNamePart))).2) isBlank).length_le
  have digits := (List.dropWhile_suffix
    (l := trimStart (Notation.cutBonus (trimStart (text.dropWhile isNamePart))).2) isDecimal).length_le
  unfold trimStart at *
  unfold cutMention
  simp only [trimStart]
  omega

/-- The mentions in a text from left to right. -/
def mentions (text : List Char) : List Mention :=
  match text with
  | [] => []
  | char :: rest =>
    if isNamePart char then (cutMention (char :: rest)).1 :: mentions (cutMention (char :: rest)).2
    else mentions rest
termination_by text.length
decreasing_by
  · rename_i part
    have shorter := lengthCutMention (char :: rest)
    have dropped := (List.dropWhile_suffix (l := rest) isNamePart).length_le
    rw [List.dropWhile_cons_of_pos part] at shorter
    simp only [List.length_cons]
    omega
  · simp

namespace Mention

/-- The signed number. One that cannot be read counts as zero. -/
def modifierValue (mention : Mention) : Int :=
  (readWord? (mention.modifier.filter (· != ' '))).getD 0

/-- The plain number, if it can be read. -/
def numberValue? (mention : Mention) : Option Int :=
  readWord? mention.number

/-- What a mention tests: in one game system always the card's entry, in the others the plain number
comes first. -/
def entryOf? (mention : Mention) (card : Option Card) (kind : CardKind) : Option Entry :=
  let name := String.ofList mention.name
  let stored := card.bind (·.entryOf? name)
  match kind with
  | .dnd => stored
  | _ =>
    (mention.numberValue?.map fun value =>
      Entry.temporary name value (Difficulty.split mention.name).1).or stored

/-- The skill behind a mention, if there is something to test. -/
def skill? (mention : Mention) (card : Option Card) (kind : CardKind) : Option Skill :=
  let entry := mention.entryOf? card kind
  let skill : Skill :=
    ⟨String.ofList mention.name, mention.modifierValue, mention.numberValue?, entry⟩
  if entry.isSome || (kind == .dnd && skill.number.isSome) then some skill else none

end Mention

/-- The skills that a description names. -/
def skills (description : List Char) (card : Option Card) (kind : CardKind) : List Skill :=
  (mentions description).filterMap (·.skill? card kind)

end Tabletop.StandardRoll
