/-
This file proves what a growth command makes of the card that its sender holds, if it is applied at once.
-/

import Tabletop.Proofs.Engine.LastEdit
import Tabletop.Proofs.Roll.Growth

namespace Tabletop

open Number

namespace GrowthAction

/-- The command checks skills. -/
def checksSkills : GrowthAction → Bool
  | .checkMarked => true
  | .check _ => true
  | _ => false

end GrowthAction

namespace GrowthRoll

/-- Checks are settled on the card that they were made for. -/
theorem apply_checks {roll : GrowthRoll} (checking : roll.action.checksSkills = true) {name : String}
    (held : roll.card = some name) (now : Instant) (board : Board) :
    roll.apply now board = board.changeCard name (settleChecks now roll.checks) := by
  unfold apply
  rw [held]
  dsimp only
  cases action : roll.action with
  | checkMarked => rfl
  | check skills => rfl
  | _ =>
      rw [action] at checking
      cases checking

end GrowthRoll

/-- The checks of a growth command. -/
def Evaluator.growth? : Evaluator → Option GrowthRoll
  | .growth roll => some roll
  | _ => none

theorem Evaluator.growth?_eq_some {evaluator : Evaluator} {growth : GrowthRoll}
    (checks : evaluator.growth? = some growth) : evaluator = .growth growth := by
  cases evaluator with
  | growth roll =>
      cases checks
      rfl
  | _ => cases checks

namespace Engine

variable {engine : Engine} {now : Instant} {command : Command} {dispatched : Dispatched} {roll : Roll}
  {growth : GrowthRoll} {name : String} {card : CocCard}

/-- A growth command is rolled from its text for the card that its sender holds. -/
theorem dispatch_growth (handled : engine.dispatch now command = .ok dispatched)
    (rolled : dispatched.roll = some roll) (growing : roll.evaluator.growth? = some growth)
    (held : growth.card = some name) (kept : engine.board.registry.get? name = some (.coc card)) :
    ∃ scene source faces rest, GrowthRoll.roll scene (.new source) faces = ((.ok (), growth), rest) ∧
      GrowthRoll.card? scene = some (.coc card) := by
  obtain ⟨start, faces, rest, fresh, made⟩ := dispatch_evaluation handled rolled
  obtain ⟨_, _, aims⟩ := dispatch_made handled rolled
  rw [Evaluator.growth?_eq_some growing] at made aims
  generalize engine.received command = received at made aims
  have holder : (engine.scene received.context).card? = some (.coc card) := aims.card?_of_kept held kept
  unfold Evaluator.roll at made
  cases fresh with
  | growth source =>
      obtain ⟨inner, done, equal⟩ := Evaluator.take_ok made
      cases equal
      exact ⟨_, source, faces, rest, done, by rw [GrowthRoll.card?, holder]; rfl⟩
  | _ =>
      obtain ⟨_, _, impossible⟩ := Evaluator.take_ok made
      cases impossible

/-- The checks of a growth command are made on the numbers of the card that its sender holds. -/
theorem dispatch_readsCard (handled : engine.dispatch now command = .ok dispatched)
    (rolled : dispatched.roll = some roll) (growing : roll.evaluator.growth? = some growth)
    (held : growth.card = some name) (kept : engine.board.registry.get? name = some (.coc card)) :
    growth.ReadsCard (some (.coc card)) := by
  obtain ⟨scene, source, faces, rest, done, holder⟩ := dispatch_growth handled rolled growing held kept
  have reads := (GrowthRoll.roll_reads scene).after (by
    intro check member
    cases member) done
  rwa [holder] at reads

/-- A card with some training in one skill, held by the sender. -/
def learner : CocCard :=
  ((CocCard.new "A" .epoch).setEntry .epoch "侦查" 40).1

/-- An engine with one held card, some faces and replies that are empty. -/
def learning (faces : Array Nat) : Engine :=
  { (saying (["roll.en.start", "roll.en.line"].map fun key => (key, []))).setRegistry
      (Registry.empty.callEach [.register (.coc learner), .link "c1" "u1" (some "A")]) with
    faces := .cycle faces }

end Engine

end Tabletop
