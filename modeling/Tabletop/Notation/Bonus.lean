/-
This file reads and writes bonuses, which are numbers with a sign.
-/

import Tabletop.Number.Numeral
import Tabletop.Text.Cut

namespace Tabletop.Notation

open Text Number

/-- The expression with a bonus behind it, unless the bonus is zero. -/
def withBonus (expression : String) (bonus : Int) : String :=
  if bonus = 0 then expression
  else if 0 < bonus then expression ++ "+" ++ intText bonus
  else expression ++ intText bonus

/-- The bonus at the start of a text, which is a sign with digits behind it, and the text behind the
bonus. -/
def cutBonus (text : List Char) : List Char × List Char :=
  match text with
  | sign :: rest =>
    let blanks := rest.takeWhile isBlank
    let digits := (rest.dropWhile isBlank).takeWhile isDecimal
    if (sign == '+' || sign == '-') && !digits.isEmpty then
      (sign :: blanks ++ digits, (rest.dropWhile isBlank).dropWhile isDecimal)
    else ([], text)
  | [] => ([], [])

theorem lengthCutBonus (text : List Char) : (cutBonus text).2.length ≤ text.length := by
  unfold cutBonus
  split
  · rename_i sign rest
    have blanks := (List.dropWhile_suffix (l := rest) isBlank).length_le
    have digits := (List.dropWhile_suffix (l := rest.dropWhile isBlank) isDecimal).length_le
    simp only
    split
    · simp only [List.length_cons]
      omega
    · simp
  · simp

end Tabletop.Notation
