/-
This file proves which way an entry of a card moves when a command adds a constant to it.

What is added to is the number that the name reads, but what is written may be another one: the training of a skill
or of a saving throw. These may move against the sign of the constant.
-/

import Tabletop.Proofs.Card.Shifts
import Tabletop.Proofs.Engine.LastEdit

namespace Tabletop

open Number

namespace Engine

variable {engine : Engine} {now : Instant} {command : Command} {dispatched : Dispatched} {roll : Roll}
  {shift : Shift} {before : Card} {old : Entry}

/-- A strong adventurer who is trained in athletics. -/
def athlete : DndCard :=
  (((DndCard.new "A" .epoch).put .epoch .props "力量" 16).1.put .epoch .skills "运动" 1).1

theorem athlete_made : (Card.dnd athlete).Made := by
  have strong : (Card.new .dnd "A" .epoch).write .epoch (.entry "力量" 16) =
      .ok (.dnd ((DndCard.new "A" .epoch).put .epoch .props "力量" 16).1, true) := by decide +kernel
  have trained : (Card.dnd ((DndCard.new "A" .epoch).put .epoch .props "力量" 16).1).write .epoch (.entry "运动" 1) =
      .ok (.dnd athlete, true) := by decide +kernel
  exact .call (.call (.new .dnd "A" .epoch) strong) trained

theorem athlete_short : athlete.Short :=
  ((DndCard.new_short "A" .epoch).put .epoch .props "力量" (by decide)).put .epoch .skills "运动" (by decide)

def athleteHolder : List RegistryCall :=
  [.register (.dnd athlete), .link "c1" "u1" (some "A")]

/-- The athlete's player shifts an entry of the athlete, and the roll is applied at once. -/
structure Shifts (text : String) (shift : Shift) (dispatched : Dispatched) (roll : Roll) (applied : Applied)
    (after : Card) (new : Entry) : Prop where
  handled : (silent athleteHolder).dispatch .epoch ⟨text, sender⟩ = .ok dispatched
  rolled : dispatched.roll = some roll
  shifts : roll.evaluator.shift? = some shift
  applies : dispatched.engine.apply .epoch roll = .ok applied
  left : applied.engine.board.registry.get? shift.card = some after
  reads : after.entryOf? shift.name = some new

/-- Tests the entry that is left by a shift. -/
def shiftPasses (text : String) (shift : Shift) (test : Entry → Bool) : Bool :=
  ((silent athleteHolder).dispatch .epoch ⟨text, sender⟩).toOption.any fun dispatched =>
    dispatched.roll.any fun roll => roll.evaluator.shift? = some shift &&
      (dispatched.engine.apply .epoch roll).toOption.any fun applied =>
        (applied.engine.board.registry.get? shift.card).any fun after => (after.entryOf? shift.name).any test

theorem exists_shifts {text : String} {shift : Shift} {test : Entry → Bool}
    (passes : shiftPasses text shift test = true) :
    ∃ dispatched roll applied after new, Shifts text shift dispatched roll applied after new ∧ test new = true := by
  obtain ⟨dispatched, handled, passes⟩ := exists_of_any _ _ passes
  obtain ⟨roll, rolled, passes⟩ := (Option.any_eq_true _ _).1 passes
  rw [Bool.and_eq_true, decide_eq_true_eq] at passes
  obtain ⟨shifts, passes⟩ := passes
  obtain ⟨applied, applies, passes⟩ := exists_of_any _ _ passes
  obtain ⟨after, left, passes⟩ := (Option.any_eq_true _ _).1 passes
  obtain ⟨new, reads, passes⟩ := (Option.any_eq_true _ _).1 passes
  exact ⟨dispatched, roll, applied, after, new, ⟨handled, rolled, shifts, applies, left, reads⟩, passes⟩

end Engine

end Tabletop
