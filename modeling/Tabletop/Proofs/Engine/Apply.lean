/-
This file proves what applying a roll leaves on the board and which cards it gives back.
-/

import Tabletop.Engine
import Tabletop.Proofs.Roll.Effect

namespace Tabletop

/-- A roll is applied only after it was made, and it is applied then. -/
theorem Roll.apply_ok {roll next : Roll} {now : Instant} {context : Context} {board after : Board}
    {names : List String} (done : roll.apply now context board = .ok (next, after, names)) :
    roll.phase = .rolled ∧ roll.evaluator.apply now context board = .ok (after, names) ∧
      next = { roll with phase := .applied } := by
  unfold Roll.apply at done
  split at done
  · next rolled =>
    split at done
    · next applied =>
      cases done
      exact ⟨rolled, applied, rfl⟩
    · cases done
  · cases done

/-- A roll that was made is applied as its evaluator is. -/
theorem Roll.apply_of_evaluator {roll : Roll} {now : Instant} {context : Context} {board after : Board}
    {names : List String} (rolled : roll.phase = .rolled)
    (done : roll.evaluator.apply now context board = .ok (after, names)) :
    roll.apply now context board = .ok ({ roll with phase := .applied }, after, names) := by
  rw [Roll.apply, if_pos rolled, done]

namespace Engine

variable {engine : Engine} {now : Instant} {roll next : Roll} {applied : Applied} {board : Board}
  {names : List String}

/-- The engine with a board whose changes were told to the hooks. -/
def settled (engine : Engine) (board : Board) : Engine :=
  { engine with board := { board with registry := board.registry.withoutChanges } }

/-- A roll that can be applied to the board is applied by the engine. -/
theorem apply_of_roll (done : roll.apply now roll.context engine.board = .ok (next, board, names)) :
    ∃ messages, engine.apply now roll =
      .ok ⟨engine.settled board, next, cardsOf board.registry.withoutChanges names, messages⟩ := by
  unfold apply
  rw [done]
  exact ⟨_, rfl⟩

/-- Applying a roll that changes a card leaves the changed card on the board, and gives it back if it tells of a
change. -/
theorem apply_change {name : String} {change : Card → Except Fault (Card × Bool)} {before after : Card}
    {changed : Bool} (phase : roll.phase = .rolled)
    (changes : roll.evaluator.apply now roll.context engine.board = engine.board.changeCard name change)
    (kept : engine.board.registry.get? name = some before) (wrote : change before = .ok (after, changed))
    (named : after.name = before.name) :
    ∃ applied, engine.apply now roll = .ok applied ∧
      applied.engine.board.registry.get? name = some after.withoutChanges ∧
      applied.cards = if changed then [after.withoutChanges] else [] := by
  have here : after.name = name := named.trans (engine.board.registry.named name before kept)
  have done := changes.trans (Board.changeCard_of_ok kept wrote named)
  have stands : (engine.board.registry.register after).withoutChanges.get? name = some after.withoutChanges := by
    rw [Registry.get?_withoutChanges, Registry.get?_register, if_pos here]
    rfl
  obtain ⟨messages, applied⟩ := apply_of_roll (Roll.apply_of_evaluator phase done)
  refine ⟨_, applied, stands, ?_⟩
  cases changed with
  | false => rfl
  | true =>
      change [name].filterMap (engine.board.registry.register after).withoutChanges.get? = [after.withoutChanges]
      rw [List.filterMap_cons, stands]
      rfl

theorem apply_ok (done : engine.apply now roll = .ok applied) :
    ∃ board names, roll.apply now roll.context engine.board = .ok (applied.roll, board, names) ∧
      applied.engine = engine.settled board ∧
      applied.cards = cardsOf board.registry.withoutChanges names := by
  obtain ⟨⟨next, board, names⟩, rolled, same⟩ := bind_eq_ok.1 done
  cases same
  exact ⟨board, names, rolled, rfl, rfl⟩

theorem mem_cardsOf {registry : Registry} {card : Card} :
    card ∈ cardsOf registry names ↔ ∃ name ∈ names, registry.get? name = some card := by
  simp only [cardsOf, List.mem_filterMap, List.mem_eraseDups]

end Engine

end Tabletop
