/-
This file proves which of two edits stays if both were tried before one of them is applied.

An edit that adds to an entry is worked out to a number when the command is handled, and this number is
written when the roll is applied. So of two edits of one entry that were tried on the same number the one
that is applied last stays, and the other one is lost.
-/

import Tabletop.Proofs.Card.Places
import Tabletop.Proofs.Engine.Apply
import Tabletop.Proofs.Engine.Dispatch
import Tabletop.Proofs.Engine.Interleaving
import Tabletop.Proofs.Roll.Preview

namespace Tabletop

open Number Step

/-- The number that a name stands for on a card. A missing one is zero. -/
def Card.number (card : Card) (name : String) : Int :=
  ((card.entryOf? name).map (·.value)).getD 0

theorem Card.entryOf?_withoutChanges (card : Card) (name : String) :
    card.withoutChanges.entryOf? name = card.entryOf? name := by
  cases card <;> rfl

/-- The card keeps the number as it is, without a limit. -/
def Card.Takes (card : Card) (name : String) (number : Int) : Prop :=
  ∃ now after changed, card.setEntry now name number = .ok (after, changed) ∧
    (after.entryOf? name).map (·.value) = some number

/-- A constant that is added to an entry of a card, below zero if it is taken away. -/
structure Shift where
  card : String
  name : String
  amount : Int
deriving DecidableEq, Repr

namespace Assignment

/-- The constant that an assignment adds to what is there. -/
def amount? (assignment : Assignment) : Option Int :=
  match assignment.operation with
  | .assign => none
  | .add => readWord? assignment.value
  | .subtract => (readWord? assignment.value).map (-·)

theorem requested_of_amount {assignment : Assignment} {amount : Int}
    (shifts : assignment.amount? = some amount) :
    ∃ number, readWord? assignment.value = some number ∧ ∀ old : Option Int,
      EditRoll.requested assignment.operation old number = wrap (old.getD 0 + amount) := by
  unfold amount? at shifts
  split at shifts
  · cases shifts
  · next add => exact ⟨amount, shifts, fun old => by rw [add]; rfl⟩
  · next subtract =>
    obtain ⟨number, read, rfl⟩ := Option.map_eq_some_iff.1 shifts
    exact ⟨number, read, fun old => by rw [subtract, ← Int.sub_eq_add_neg]; rfl⟩

end Assignment

namespace EditRoll

/-- A command with one assignment of a constant writes one number when it is applied. -/
theorem roll_shift {scene : Scene} {now : Instant} {source : String} {faces rest : Faces}
    {roll : EditRoll} (done : EditRoll.roll scene now (.new source) faces = ((.ok (), roll), rest))
    {assignment : Assignment} {amount : Int} (asked : roll.edit = some (.values [assignment]))
    (shifts : assignment.amount? = some amount) {name : String} (held : roll.card = some name) :
    ∃ card write, scene.card? = some card ∧ card.name = name ∧ roll.writes = [write] ∧
      write.input = String.ofList assignment.name ∧
      write.requested = wrap (card.number write.input + amount) := by
  obtain ⟨card, start, tried, last, left, there, named, none, previewed, stays⟩ := roll_previews done asked held
  rw [List.foldlM_cons] at previewed
  obtain ⟨_, _, _, previewed, finished⟩ := bind_ok previewed
  cases finished
  obtain ⟨write, rfl, tells⟩ := preview_tells previewed
  rw [none, List.nil_append] at stays
  obtain ⟨number, read, requested⟩ := Assignment.requested_of_amount shifts
  obtain ⟨given, constant, asks⟩ := tells.requested
  rw [constant number read, requested, tells.old] at asks
  exact ⟨card, write, there, named, stays.symm, tells.input, asks⟩

end EditRoll

/-- What a command adds to an entry, if it has one assignment of a constant. -/
def Evaluator.shift? : Evaluator → Option Shift
  | .edit ⟨some (.values [assignment]), some card, _, _⟩ =>
    assignment.amount?.map fun amount => ⟨card, String.ofList assignment.name, amount⟩
  | _ => none

theorem Evaluator.shift?_eq_some {evaluator : Evaluator} {shift : Shift}
    (shifts : evaluator.shift? = some shift) : ∃ roll assignment, evaluator = .edit roll ∧
      roll.edit = some (.values [assignment]) ∧ roll.card = some shift.card ∧
      String.ofList assignment.name = shift.name ∧ assignment.amount? = some shift.amount := by
  unfold shift? at shifts
  split at shifts
  · obtain ⟨amount, found, rfl⟩ := Option.map_eq_some_iff.1 shifts
    exact ⟨_, _, rfl, rfl, rfl, rfl, found⟩
  · cases shifts

/-- The number that a shift leaves of a card, if nothing else is applied. -/
def Shift.target (shift : Shift) (card : Card) : Int :=
  wrap (card.number shift.name + shift.amount)

theorem EditRoll.writeAll_singleton (now : Instant) (write : EntryWrite) (card : Card) :
    writeAll now [write] card = card.setEntry now write.input write.requested := by
  unfold writeAll
  rw [List.foldlM_cons]
  dsimp only
  cases card.setEntry now write.input write.requested with
  | error fault => rfl
  | ok result =>
      rcases result with ⟨after, _ | _⟩
      · rfl
      · rfl

/-- Applying a roll writes one number to a card. -/
def Evaluator.WritesNumber (evaluator : Evaluator) (card name : String) (number : Int) : Prop :=
  ∀ now context board, evaluator.apply now context board =
    board.changeCard card fun before => before.setEntry now name number

namespace Engine

variable {engine : Engine} {now : Instant} {command : Command} {dispatched : Dispatched} {roll : Roll}
  {shift : Shift}

/-- The number that is written when a shift is applied is the one that was worked out when the command
was handled. -/
theorem dispatch_shift (handled : engine.dispatch now command = .ok dispatched)
    (rolled : dispatched.roll = some roll) (shifts : roll.evaluator.shift? = some shift) :
    ∃ before, engine.board.registry.get? shift.card = some before ∧
      roll.evaluator.WritesNumber shift.card shift.name (shift.target before) := by
  obtain ⟨edit, assignment, same, asked, held, named, amount⟩ := Evaluator.shift?_eq_some shifts
  obtain ⟨start, faces, rest, fresh, made⟩ := dispatch_evaluation handled rolled
  rw [same] at made
  unfold Evaluator.roll at made
  cases fresh with
  | edit source =>
      obtain ⟨inner, done, equal⟩ := Evaluator.take_ok made
      cases equal
      obtain ⟨before, write, stands, cardNamed, writes, input, requested⟩ :=
        EditRoll.roll_shift done asked amount held
      refine ⟨before, cardNamed ▸ Scene.get?_of_card stands, fun later context board => ?_⟩
      rw [same]
      change edit.apply later board = _
      unfold EditRoll.apply
      rw [asked, held, writes]
      simp only [EditRoll.writeAll_singleton, requested, input, named, Shift.target]
  | _ =>
      obtain ⟨_, _, impossible⟩ := Evaluator.take_ok made
      cases impossible

/-- Applying a roll that writes a number puts the written card on the board. -/
theorem apply_number {card name : String} {number : Int} {before after : Card} {changed : Bool}
    (phase : roll.phase = .rolled) (writes : roll.evaluator.WritesNumber card name number)
    (kept : engine.board.registry.get? card = some before)
    (wrote : before.setEntry now name number = .ok (after, changed)) :
    ∃ applied, engine.apply now roll = .ok applied ∧
      applied.engine.board.registry.get? card = some after.withoutChanges := by
  have told : before.Tells after changed := .ofReports (Card.setEntry_reports wrote)
  obtain ⟨applied, applies, stands, _⟩ := apply_change phase (writes now roll.context engine.board) kept wrote told.name
  exact ⟨applied, applies, stands⟩

/-- Applying one roll after the other leaves a number under a name of a card. -/
def Leaves (engine : Engine) (first last : Roll) (later latest : Instant) (card name : String)
    (number : Int) : Prop :=
  ∃ applied final after, engine.apply later first = .ok applied ∧
    applied.engine.apply latest last = .ok final ∧
    final.engine.board.registry.get? card = some after ∧
    (after.entryOf? name).map (·.value) = some number

variable {first last : Roll} {card name other : String} {number otherNumber : Int} {before : Card}

/-- Of two numbers that rolls write to one entry the last one stays. -/
theorem leaves_last (firstPhase : first.phase = .rolled) (lastPhase : last.phase = .rolled)
    (firstWrites : first.evaluator.WritesNumber card other otherNumber)
    (lastWrites : last.evaluator.WritesNumber card name number)
    (kept : engine.board.registry.get? card = some before)
    (oneEntry : before.place other = before.place name) (firstTakes : before.Takes other otherNumber)
    (lastTakes : before.Takes name number) (later latest : Instant) :
    engine.Leaves first last later latest card name number := by
  obtain ⟨_, _, _, wrote, _⟩ := firstTakes
  obtain ⟨_, alone, _, tried, read⟩ := lastTakes
  obtain ⟨written, _, wroteLater⟩ := Card.setEntry_later wrote later
  obtain ⟨applied, done, between⟩ := apply_number firstPhase firstWrites kept wroteLater
  obtain ⟨after, _, wroteAgain, same⟩ := Card.setEntry_again oneEntry wroteLater tried
    { written.core with changes := [] } latest
  obtain ⟨final, finished, stands⟩ := apply_number lastPhase lastWrites between wroteAgain
  refine ⟨applied, final, _, done, finished, stands, ?_⟩
  rw [Card.entryOf?_withoutChanges, same, read]

variable {otherCommand : Command} {otherDispatched : Dispatched} {otherRoll : Roll} {otherShift : Shift}
  {between : Instant}

/-- A card with a strength of fifty. -/
def strongCard : Card :=
  .coc { CocCard.new "A" .epoch with props := .ofPairs [("力量", 50)] }

def strongHolder : List RegistryCall :=
  [.register strongCard, .link "c1" "u1" (some "A")]

theorem strongHolder_adds :
    ∃ result, (silent strongHolder).overtake ⟨"st 力量+5", sender⟩ ⟨"st 力量+3", sender⟩ = some result ∧
      result.roll.evaluator.shift? = some ⟨"A", "力量", 5⟩ ∧
      result.other.evaluator.shift? = some ⟨"A", "力量", 3⟩ ∧
      (result.applied.engine.board.registry.get? "A").map (·.number "力量") = some 55 := by
  have done : ((silent strongHolder).overtake ⟨"st 力量+5", sender⟩ ⟨"st 力量+3", sender⟩).any (fun result =>
      decide (result.roll.evaluator.shift? = some ⟨"A", "力量", 5⟩) &&
        (decide (result.other.evaluator.shift? = some ⟨"A", "力量", 3⟩) &&
          decide ((result.applied.engine.board.registry.get? "A").map (·.number "力量") = some 55)))
      = true := by
    decide +kernel
  obtain ⟨result, overtakes, facts⟩ := (Option.any_eq_true _ _).1 done
  simp only [Bool.and_eq_true, decide_eq_true_eq] at facts
  exact ⟨result, overtakes, facts⟩

end Engine

end Tabletop
