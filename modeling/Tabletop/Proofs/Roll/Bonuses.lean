/-
This file proves that the roll for a skill is the roll of its expression with the bonus of the skill on it.

The bonus is written behind the expression and read again with it. What the entry and the modifier come to is added
with 64 bits before, so it is their sum only if that fits.
-/

import Tabletop.Proofs.Card.Exact
import Tabletop.Proofs.Notation.Bonus
import Tabletop.Proofs.Roll.Tests

namespace Tabletop

open Number Step Text

namespace Number

theorem wrap_eq_self {number : Int} : wrap number = number ↔ isWord number = true :=
  ⟨fun same => same ▸ isWord_wrap number, wrap_of_isWord⟩

theorem natAbs_wrap_lt (number : Int) : (wrap number).natAbs < 2 ^ 64 := by
  have word := isWord_iff_between.1 (isWord_wrap number)
  omega

end Number

namespace StandardRoll

variable {scene : Scene} {state : RollState} {rolled : TestedRoll} {expr : Notation.Expr}

/-- What the entry of a skill and the modifier behind its name come to. -/
def fullBonus (skill : Skill) : Int :=
  (skill.entry.map bonus).getD 0 + skill.modifier

/-- A roll for a skill throws the dice that its expression alone throws. It is greater by the full bonus, provided that
this fits into 64 bits. -/
structure RaisedFor (expression : String) (skill : Skill) (rolled : TestedRoll) (plain : Notation.Result)
    (faces rest : Faces) : Prop where
  label : rolled.label = some skill.name
  alone : Notation.roll expression .random faces = (.ok plain, rest)
  together : Notation.roll (Notation.withBonus expression (added skill)) .random faces = (.ok rolled.result, rest)
  dice : rolled.result.dice = plain.dice
  total : rolled.result.total = plain.total + fullBonus skill ↔ isWord (fullBonus skill) = true

theorem Makes.raisedFor (makes : Makes scene state rolled) (dnd : state.cardKind = .dnd) (some : state.skills ≠ [])
    (parsed : Notation.parse state.expression.toList = .ok expr) :
    ∃ skill ∈ state.skills, ∃ plain faces rest, RaisedFor state.expression skill rolled plain faces rest := by
  cases makes with
  | once others _ => exact absurd ⟨dnd, some⟩ others
  | @skill skill result faces rest _ member made =>
      have exactly (plain : Notation.Result) (raised : result.total = plain.total + added skill) :
          result.total = plain.total + fullBonus skill ↔ isWord (fullBonus skill) = true := by
        rw [raised, ← wrap_eq_self, added, ← fullBonus]
        omega
      by_cases zero : added skill = 0
      · have alone := made
        rw [zero, Notation.withBonus, if_pos rfl] at alone
        exact ⟨skill, member, result, faces, rest, rfl, alone, made, rfl, exactly result (by omega)⟩
      · obtain ⟨tree, _, read, _⟩ := Notation.roll_eq_ok made
        obtain ⟨short, small, _⟩ := (Notation.parse_withBonus parsed zero (natAbs_wrap_lt _)).1 read
        have raised := Notation.roll_withBonus parsed zero small short .random faces
        generalize ended : Notation.roll state.expression .random faces = plainly at raised
        rw [made] at raised
        cases raised with
        | @sum plain _ _ _ total dice =>
            exact ⟨skill, member, plain, faces, rest, rfl, ended, made, dice, exactly plain total⟩

/-- A card with a strength of sixteen, which is a bonus of three. -/
def strong : Card :=
  .dnd { DndCard.new "A" .epoch with props := .ofPairs [("力量", 16)] }

end StandardRoll

end Tabletop
