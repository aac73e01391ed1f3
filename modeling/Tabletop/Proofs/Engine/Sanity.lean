/-
This file proves what a card keeps of a sanity check that is applied at once.

The new sanity is told before it is written. The card does not take more than the knowledge of the mythos leaves, so
it keeps what was told unless the loss was negative.
-/

import Tabletop.Proofs.Card.Made
import Tabletop.Proofs.Engine.LastEdit
import Tabletop.Proofs.Roll.Sanity

namespace Tabletop

open Number

/-- The sanity check of a command. -/
def Evaluator.sanity? : Evaluator → Option SanityRoll
  | .sanity roll => some roll
  | _ => none

theorem Evaluator.sanity?_eq_some {evaluator : Evaluator} {sanity : SanityRoll}
    (checks : evaluator.sanity? = some sanity) : evaluator = .sanity sanity := by
  cases evaluator with
  | sanity roll =>
      cases checks
      rfl
  | _ => cases checks

/-- Applying a check writes the sanity that it told of. -/
theorem Evaluator.writesNumber_sanity {evaluator : Evaluator} {sanity : SanityRoll} {name : String} {old new : Int}
    (checks : evaluator.sanity? = some sanity) (changes : sanity.change = some (old, new))
    (own : sanity.isInline = false) (held : sanity.card = some name) :
    evaluator.WritesNumber name CocCard.sanity new := by
  intro now context board
  rw [sanity?_eq_some checks]
  change sanity.apply now board = _
  rw [SanityRoll.apply, changes, held, own]

namespace Engine

variable {engine : Engine} {now : Instant} {command : Command} {dispatched : Dispatched} {roll : Roll}
  {sanity : SanityRoll} {old new : Int} {name : String} {card : CocCard}

/-- A command that tells of a change of sanity made a check in the scene of the command. -/
theorem dispatch_checks (handled : engine.dispatch now command = .ok dispatched)
    (rolled : dispatched.roll = some roll) (checks : roll.evaluator.sanity? = some sanity)
    (changes : sanity.change = some (old, new)) :
    ∃ faces asked check loss,
      SanityRoll.Checked (engine.scene (engine.received command).context) faces asked check loss old sanity := by
  obtain ⟨start, faces, rest, fresh, made⟩ := dispatch_evaluation handled rolled
  rw [Evaluator.sanity?_eq_some checks] at made
  unfold Evaluator.roll at made
  cases fresh with
  | sanity source =>
      obtain ⟨inner, done, equal⟩ := Evaluator.take_ok made
      cases equal
      exact ⟨faces, SanityRoll.roll_checked done changes⟩
  | _ =>
      obtain ⟨_, _, impossible⟩ := Evaluator.take_ok made
      cases impossible

/-- An investigator with some sanity. -/
def investigator (sanity : Int) : CocCard :=
  ((CocCard.new "A" .epoch).setEntry .epoch "理智" sanity).1

theorem investigator_made (sanity : Int) : (Card.coc (investigator sanity)).Made := by
  have written : (Card.new .coc "A" .epoch).write .epoch (.entry "理智" sanity) =
      .ok (.coc (investigator sanity), ((CocCard.new "A" .epoch).setEntry .epoch "理智" sanity).2) := rfl
  exact .call (.new .coc "A" .epoch) written

/-- An engine with an investigator that is held, some faces and replies that are empty. -/
def facing (sanity : Int) (faces : Array Nat) : Engine :=
  let keys := ["roll.sc.first", "roll.sc.second", "roll.sc.third"]
  { (saying (keys.map fun key => (key, []))).setRegistry
      (Registry.empty.callEach [.register (.coc (investigator sanity)), .link "c1" "u1" (some "A")]) with
    faces := .cycle faces }

/-- A check that an engine makes of the card of its sender, and the change that it tells of. -/
structure Tells (engine : Engine) (text : String) (change : Int × Int) (dispatched : Dispatched) (roll : Roll)
    (sanity : SanityRoll) : Prop where
  handled : engine.dispatch .epoch ⟨text, sender⟩ = .ok dispatched
  rolled : dispatched.roll = some roll
  checks : roll.evaluator.sanity? = some sanity
  changes : sanity.change = some change
  own : sanity.isInline = false
  held : sanity.card = some "A"

/-- Tests a check that was made and then applied. -/
def checkPasses (engine : Engine) (text : String) (change : Int × Int) (test : Applied → Bool) : Bool :=
  (engine.dispatch .epoch ⟨text, sender⟩).toOption.any fun dispatched =>
    dispatched.roll.any fun roll => roll.evaluator.sanity?.any fun sanity =>
      (sanity.change = some change && (sanity.isInline = false && sanity.card = some "A")) &&
        (dispatched.engine.apply .epoch roll).toOption.any test

theorem exists_tells {engine : Engine} {text : String} {change : Int × Int} {test : Applied → Bool}
    (passes : engine.checkPasses text change test = true) :
    ∃ dispatched roll sanity applied, engine.Tells text change dispatched roll sanity ∧
      dispatched.engine.apply .epoch roll = .ok applied ∧ test applied = true := by
  obtain ⟨dispatched, handled, passes⟩ := exists_of_any _ _ passes
  obtain ⟨roll, rolled, passes⟩ := (Option.any_eq_true _ _).1 passes
  obtain ⟨sanity, checks, passes⟩ := (Option.any_eq_true _ _).1 passes
  simp only [Bool.and_eq_true, decide_eq_true_eq] at passes
  obtain ⟨⟨changes, own, held⟩, passes⟩ := passes
  obtain ⟨applied, applies, passes⟩ := exists_of_any _ _ passes
  exact ⟨dispatched, roll, sanity, applied, ⟨handled, rolled, checks, changes, own, held⟩, applies, passes⟩

end Engine

end Tabletop
