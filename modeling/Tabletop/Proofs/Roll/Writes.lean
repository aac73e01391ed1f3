/-
This file proves that applying a roll changes registered cards by writes alone.

Only a new card that takes the place of an old one is no write.
-/

import Tabletop.Proofs.Card.Registry
import Tabletop.Proofs.Card.Writes
import Tabletop.Proofs.Roll.Effect

namespace Tabletop

open Card

/-! Changes of cards -/

theorem GrowthRoll.setMarks_writes {now : Instant} {keys : List String} {before after : Card}
    {changed : Bool} (done : setMarks now keys before = (after, changed)) :
    before.Writes now after := by
  have writes : before.Writes now (setMarks now keys before).1 := by
    apply List.foldlRecOn (motive := fun (result : Card × Bool) => before.Writes now result.1)
    · exact .start
    · intro result writes key _
      exact writes.call (.mark key) rfl
  rwa [done] at writes

theorem GrowthRoll.writeGains_writes {now : Instant} {checks : List GrowthCheck} {before after : Card}
    {changed : Bool} (done : writeGains now checks before = .ok (after, changed)) :
    before.Writes now after := by
  refine foldlM_keeps (fun result => before.Writes now result.1) ?_ .start done
  intro result check next writes written
  dsimp only at written
  split at written
  · obtain ⟨entry, set, same⟩ := bind_eq_ok.1 written
    cases same
    exact writes.call (.entry check.key check.new) set
  · cases written
    exact writes

theorem GrowthRoll.settleChecks_writes {now : Instant} {checks : List GrowthCheck}
    {before after : Card} {changed : Bool}
    (done : settleChecks now checks before = .ok (after, changed)) : before.Writes now after := by
  obtain ⟨⟨middle, written⟩, gains, rest⟩ := bind_eq_ok.1 done
  have writes := writeGains_writes gains
  dsimp only at rest
  split at rest
  · cases rest
    exact writes
  · cases rest
    exact writes.call (.clear _) rfl

theorem EditRoll.writeAll_writes {now : Instant} {writes : List EntryWrite} {before after : Card}
    {changed : Bool} (done : writeAll now writes before = .ok (after, changed)) :
    before.Writes now after := by
  refine foldlM_keeps (fun result => before.Writes now result.1) ?_ .start done
  intro result write next written run
  obtain ⟨entry, set, same⟩ := bind_eq_ok.1 run
  cases same
  exact written.call (.entry write.input write.requested) set

/-- A revived character gets a hit point as by a call for the entry. -/
theorem DeathRoll.settle_writes (now : Instant) (saving : DeathSaving) (outcome : DeathSave)
    (card : DndCard) : (Card.dnd card).Writes now (.dnd (settle now saving outcome card)) := by
  have saved : (Card.dnd card).Writes now (.dnd (card.setDeathSaving now saving)) :=
    Writes.saves .start saving
  unfold settle
  split
  · exact saved.call (.entry DndCard.hitPoints 1) rfl
  · exact saved

/-! Changes of the board -/

/-- What a change does to a card holds of all cards of the board, if it holds of those that stay as they are. -/
theorem Board.changeCard_relates {board after : Board} {name : String}
    {change : Card → Except Fault (Card × Bool)} {names : List String} {related : Card → Card → Prop}
    (still : ∀ card, related card card)
    (step : ∀ before card changed, change before = .ok (card, changed) → related before card)
    (done : board.changeCard name change = .ok (after, names)) {other : String} {before card : Card}
    (kept : board.registry.get? other = some before)
    (stands : after.registry.get? other = some card) : related before card := by
  have unchanged (same : board.registry.get? other = some card) : related before card := by
    rw [Option.some.inj (kept.symm.trans same)]
    exact still card
  unfold changeCard at done
  split at done
  · cases done
    exact unchanged stands
  · next held found =>
    obtain ⟨⟨written, changed⟩, made, same⟩ := bind_eq_ok.1 done
    cases same
    change (board.registry.update name written).get? other = some card at stands
    unfold Registry.update at stands
    split at stands
    · next named =>
      rw [Registry.get?_register] at stands
      split at stands
      · next here =>
        rw [← named, here, kept] at found
        cases found
        cases stands
        exact step _ _ _ made
      · exact unchanged stands
    · exact unchanged stands

/-- If a card is changed by writes, then all cards of the board are. -/
theorem Board.changeCard_writes {board after : Board} {now : Instant} {name : String}
    {change : Card → Except Fault (Card × Bool)} {names : List String}
    (step : ∀ before card changed, change before = .ok (card, changed) → before.Writes now card)
    (done : board.changeCard name change = .ok (after, names)) {other : String} {before card : Card}
    (kept : board.registry.get? other = some before)
    (stands : after.registry.get? other = some card) : before.Writes now card :=
  changeCard_relates (fun _ => .start) step done kept stands

namespace Evaluator

variable {now : Instant} {context : Context} {board after : Board} {names : List String}

/-- Applying a roll changes registered cards by writes, unless a new card takes the name of one. -/
theorem apply_writes {evaluator : Evaluator}
    (done : evaluator.apply now context board = .ok (after, names)) {name : String}
    {before card : Card} (unmade : evaluator.made? ≠ some name)
    (kept : board.registry.get? name = some before)
    (stands : after.registry.get? name = some card) : before.Writes now card := by
  have unchanged (same : board.registry.get? name = some card) : before.Writes now card := by
    rw [Option.some.inj (kept.symm.trans same)]
    exact .start
  have marks (roll : StandardRoll) (applied : roll.apply now context board = .ok (after, names)) :
      before.Writes now card := by
    unfold StandardRoll.apply at applied
    split at applied
    · cases applied
      exact unchanged stands
    · refine Board.changeCard_writes ?_ applied kept stands
      intro held written changed marked
      exact GrowthRoll.setMarks_writes (Except.ok.inj marked)
  have remains : evaluator.deleted? ≠ some name := by
    intro deleted
    rw [apply_deleted done deleted] at stands
    cases stands
  have still (unwritten : evaluator.card? context board = none) : before.Writes now card := by
    have same := (apply_effect done).cards (by simp [unwritten]) unmade remains
    exact unchanged (same.symm.trans stands)
  cases evaluator with
  | standard roll => exact marks roll done
  | opposed roll => exact marks roll.inner done
  | sanity roll =>
      change roll.apply now board = .ok (after, names) at done
      unfold SanityRoll.apply at done
      split at done
      · refine Board.changeCard_writes ?_ done kept stands
        intro held written changed set
        exact Writes.start.call (.entry _ _) set
      · cases done
        exact unchanged stands
  | growth roll =>
      change roll.apply now board = .ok (after, names) at done
      unfold GrowthRoll.apply at done
      split at done
      · cases done
        exact unchanged stands
      · refine Board.changeCard_writes ?_ done kept stands
        intro held written changed settled
        split at settled
        · exact GrowthRoll.settleChecks_writes settled
        · exact GrowthRoll.settleChecks_writes settled
        · exact GrowthRoll.setMarks_writes (Except.ok.inj settled)
        · exact Writes.start.call (.clear _) settled
        · cases settled
          exact .start
  | edit roll =>
      change roll.apply now board = .ok (after, names) at done
      unfold EditRoll.apply at done
      split at done
      · refine Board.changeCard_writes ?_ done kept stands
        intro held written changed settled
        split at settled
        · cases settled
          exact .start
        · exact Writes.start.call (.ability _ _) settled
        · exact EditRoll.writeAll_writes settled
      · cases done
        exact unchanged stands
  | deathSave roll =>
      change roll.apply now board = .ok (after, names) at done
      unfold DeathRoll.apply at done
      split at done
      · refine Board.changeCard_writes ?_ done kept stands
        intro held written changed settled
        split at settled
        · cases settled
          exact DeathRoll.settle_writes now _ _ _
        · cases settled
          exact .start
      · cases done
        exact unchanged stands
  | initiative roll => exact still rfl
  | initiativeList roll => exact still rfl
  | link roll => exact still rfl
  | admin roll => exact still rfl

end Evaluator

end Tabletop
