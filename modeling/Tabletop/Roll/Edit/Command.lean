/-
This file reads the commands that show and edit cards.
-/

import Tabletop.Command
import Tabletop.Number.Numeral

namespace Tabletop

/-- How a value in a command changes an entry. -/
inductive EditOperation where
  | assign
  | add
  | subtract
deriving DecidableEq, Repr

/-- A value for an entry. -/
structure Assignment where
  name : List Char
  operation : EditOperation
  value : List Char
deriving DecidableEq, Repr

/-- What a command for a card asks for. -/
inductive Edit where
  /-- All entries, or those of some names. -/
  | view (names : List String)
  | ability (name expression : String)
  | values (assignments : List Assignment)
deriving DecidableEq, Repr

namespace Edit

open Text

/-- The characters of the names of entries. -/
def isNamePart (char : Char) : Bool :=
  !(isBlank char || isDecimal char || "+-=()*/%&".toList.contains char)

/-- The characters of values. -/
def isValuePart (char : Char) : Bool :=
  char.isDigit || "dD%()*/".toList.contains char

/-- The letter for dice can be part of a name or of a value. -/
def isDie (char : Char) : Bool :=
  char == 'd' || char == 'D'

/-- The operation of a sign, and the text behind it. -/
def cutOperation : List Char → EditOperation × List Char
  | '+' :: rest => (.add, rest)
  | '-' :: rest => (.subtract, rest)
  | '=' :: rest => (.assign, rest)
  | text => (.assign, text)

theorem lengthCutOperation (text : List Char) : (cutOperation text).2.length ≤ text.length := by
  unfold cutOperation
  split <;> simp

/-- The assignment of a whole name and what follows it, if there is a value. -/
def cutWhole? (text : List Char) : Option (Assignment × List Char) :=
  let (operation, rest) := cutOperation (trimStart (text.dropWhile isNamePart))
  let value := (trimStart rest).takeWhile isValuePart
  if value.isEmpty then none
  else some (⟨text.takeWhile isNamePart, operation, value⟩, (trimStart rest).dropWhile isValuePart)

/-- The name that ends in front of the last letter for dice of a run. -/
def nameBeforeDie (run : List Char) : List Char :=
  (run.reverse.dropWhile fun char => !isDie char).tail.reverse

/-- The assignment whose value begins within the run of characters of names. -/
def cutAtDie? (text : List Char) : Option (Assignment × List Char) :=
  let name := nameBeforeDie (text.takeWhile isNamePart)
  if name.isEmpty then none
  else
    let rest := text.drop name.length
    some (⟨name, .assign, rest.takeWhile isValuePart⟩, rest.dropWhile isValuePart)

/-- The assignment at the start of a text, and the text behind it. -/
def cutAssignment? (text : List Char) : Option (Assignment × List Char) :=
  (cutWhole? text).or (cutAtDie? text)

theorem lengthCutWhole {text rest : List Char} {assignment : Assignment}
    (found : cutWhole? text = some (assignment, rest)) :
    rest.length ≤ (text.dropWhile isNamePart).length := by
  have blanks := (List.dropWhile_suffix (l := text.dropWhile isNamePart) isBlank).length_le
  have sign := lengthCutOperation (trimStart (text.dropWhile isNamePart))
  have moreBlanks := (List.dropWhile_suffix
    (l := (cutOperation (trimStart (text.dropWhile isNamePart))).2) isBlank).length_le
  have value := (List.dropWhile_suffix
    (l := trimStart (cutOperation (trimStart (text.dropWhile isNamePart))).2) isValuePart).length_le
  unfold cutWhole? at found
  simp only at found
  split at found
  · simp at found
  · simp only [Option.some.injEq, Prod.mk.injEq] at found
    rw [← found.2]
    unfold trimStart at *
    omega

theorem lengthCutAtDie {text rest : List Char} {assignment : Assignment}
    (found : cutAtDie? text = some (assignment, rest)) : rest.length ≤ text.length - 1 := by
  unfold cutAtDie? at found
  simp only at found
  split at found
  · simp at found
  · rename_i nonempty
    have positive : 0 < (nameBeforeDie (text.takeWhile isNamePart)).length := by
      simpa [List.length_pos_iff] using nonempty
    have value := (List.dropWhile_suffix
      (l := text.drop (nameBeforeDie (text.takeWhile isNamePart)).length) isValuePart).length_le
    simp only [Option.some.injEq, Prod.mk.injEq] at found
    rw [← found.2]
    rw [List.length_drop] at value
    omega

/-- The assignments in a text from left to right. What is none is skipped. -/
def assignments (text : List Char) : List Assignment :=
  match text with
  | [] => []
  | char :: rest =>
    if _name : isNamePart char then
      match _found : cutAssignment? (char :: rest) with
      | some (assignment, behind) => assignment :: assignments behind
      | none => assignments (rest.dropWhile isNamePart)
    else assignments rest
termination_by text.length
decreasing_by
  · unfold cutAssignment? at _found
    rw [Option.or_eq_some_iff] at _found
    have dropped := (List.dropWhile_suffix (l := rest) isNamePart).length_le
    rcases _found with whole | ⟨_, die⟩
    · have shorter := lengthCutWhole whole
      rw [List.dropWhile_cons_of_pos _name] at shorter
      simp only [List.length_cons]
      omega
    · have shorter := lengthCutAtDie die
      simp only [List.length_cons] at *
      omega
  · have dropped := (List.dropWhile_suffix (l := rest) isNamePart).length_le
    simp only [List.length_cons]
    omega
  · simp

/-- Reads an ability with its expression behind an equals sign. Neither is empty. -/
def parseAbility? (text : List Char) : Option Edit := do
  let (name, expression) ← cutAt? ['='] text
  let name := trim name
  let expression := trim expression
  if name.isEmpty || expression.isEmpty then none
  else return .ability (String.ofList name) (String.ofList expression)

/-- Reads a command. -/
def parse? (text : List Char) : Option Edit :=
  let text := trim text
  match Command.afterKeyword? "show".toList text, text with
  | _, [] => some (.view [])
  | some rest, _ => some (.view ((words rest).map String.ofList))
  | none, '&' :: rest => parseAbility? rest
  | none, _ => some (.values (assignments text))

end Edit

end Tabletop
