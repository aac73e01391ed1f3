/-
This file proves which growth marks are left when all marked skills were checked at once.

A mark is set under the key that its skill has then. If it had none, the mark is the name itself, and a later entry
may give the name another key. Then the check takes away the mark under this key, and the mark itself is left.
-/

import Tabletop.Proofs.Engine.Exact
import Tabletop.Proofs.Engine.Growth
import Tabletop.Proofs.Engine.Histories

namespace Tabletop

namespace Engine

variable {first last : Engine} {rolls : List Roll} {now : Instant} {command : Command} {dispatched : Dispatched}
  {roll : Roll} {growth : GrowthRoll} {name : String} {card : CocCard}

/-- Applying a growth command at once settles its checks on the card that they were made for. -/
theorem dispatch_settles (handled : last.dispatch now command = .ok dispatched)
    (rolled : dispatched.roll = some roll) (growing : roll.evaluator.growth? = some growth)
    (checking : growth.action.checksSkills = true) (held : growth.card = some name)
    (kept : last.board.registry.get? name = some (.coc card)) (later : Instant) :
    ∃ applied, dispatched.engine.apply later roll = .ok applied ∧
      applied.engine.board.registry.get? name =
        some (Card.coc (card.settle later (GrowthRoll.ownChecks growth.checks))).withoutChanges := by
  obtain ⟨phase, _, _⟩ := dispatch_made handled rolled
  obtain ⟨changed, settles⟩ := GrowthRoll.settleChecks_ok card later growth.checks
  have changes : roll.evaluator.apply later roll.context dispatched.engine.board =
      dispatched.engine.board.changeCard name (GrowthRoll.settleChecks later growth.checks) := by
    rw [Evaluator.growth?_eq_some growing]
    exact GrowthRoll.apply_checks checking held later _
  rw [← (dispatch_records handled).board] at kept
  obtain ⟨applied, applies, stands, _⟩ :=
    apply_change phase changes kept settles (GrowthRoll.settleChecks_tells settles).name
  exact ⟨applied, applies, stands⟩

/-- An engine with a new card and its holder, some faces and replies that are empty. -/
def marking (faces : Array Nat) : Engine :=
  let keys := ["roll.en.mark", "roll.en.start", "roll.en.line", "roll.st.prompt", "roll.st.line"]
  { (saying (keys.map fun key => (key, []))).setRegistry (Registry.empty.callEach newHolder) with
    faces := .cycle faces }

theorem marking_allNew (faces : Array Nat) : (marking faces).AllNew := by
  intro name card stands
  change ((Registry.empty.register (.new .coc "A" .epoch)).link "c1" "u1" (some "A")).get? name = some card at stands
  rw [Registry.get?_link, Registry.get?_register] at stands
  split at stands
  · next same =>
    obtain rfl := Option.some.inj stands
    exact ⟨.coc, .epoch, congrArg (Card.new .coc · .epoch) same⟩
  · simp [Registry.get?, Registry.empty] at stands

/-- A card with a mark. -/
def marked (mark : String) : CocCard :=
  { CocCard.new "A" .epoch with growthMarks := {mark} }

end Engine

end Tabletop
