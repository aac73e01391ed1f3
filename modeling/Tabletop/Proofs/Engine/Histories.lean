/-
This file proves what all cards keep, whatever happens to them, and when their growth marks were set.

Rolls change cards by writes and make new ones. So what new cards have and writes keep holds of every card at any
time, and a mark on a card was set by some roll that was applied since the card was new.
-/

import Tabletop.Proofs.Card.Made
import Tabletop.Proofs.Engine.Interleaving
import Tabletop.Proofs.Roll.Marks
import Tabletop.Proofs.Roll.Writes

namespace Tabletop

/-! Properties of all cards -/

/-- The property holds of all cards. -/
def Registry.Every (registry : Registry) (holds : Card → Prop) : Prop :=
  ∀ name card, registry.get? name = some card → holds card

/-- New cards have the property, and it is kept by writes and when changes are no longer pending. -/
structure Card.Lasting (holds : Card → Prop) : Prop where
  new : ∀ kind name now, holds (.new kind name now)
  writes : ∀ {now card after}, Card.Writes now card after → holds card → holds after
  drained : ∀ {card}, holds card → holds card.withoutChanges

theorem Registry.Every.withoutChanges {registry : Registry} {holds : Card → Prop} (every : registry.Every holds)
    (lasting : Card.Lasting holds) : registry.withoutChanges.Every holds := by
  intro name card stands
  rw [Registry.get?_withoutChanges] at stands
  obtain ⟨before, kept, rfl⟩ := Option.map_eq_some_iff.1 stands
  exact lasting.drained (every name before kept)

theorem Card.made_lasting : Card.Lasting Made where
  new := .new
  writes writes made := by
    induction writes with
    | start => exact made
    | call _ _ written inductionHypothesis => exact .call inductionHypothesis written
    | saves _ saving inductionHypothesis => exact .saves inductionHypothesis _ saving
  drained := .drained

namespace Evaluator

variable {evaluator : Evaluator} {now : Instant} {context : Context} {board after : Board}
  {names : List String} {name : String} {card : Card}

/-- A card that a roll leaves is new, or it comes by writes from the card that stood under the name. -/
theorem apply_card (done : evaluator.apply now context board = .ok (after, names))
    (stands : after.registry.get? name = some card) :
    (∃ kind, card = .new kind name now) ∨
      ∃ before, board.registry.get? name = some before ∧ before.Writes now card := by
  by_cases made : evaluator.made? = some name
  · obtain ⟨kind, new⟩ := apply_makes done made
    exact .inl ⟨kind, Option.some.inj (stands.symm.trans new)⟩
  · have there : after.registry.contains name = true := by
      rw [Registry.contains_iff, stands]
      exact Option.some_ne_none card
    have stood := ((apply_effect done).made there).resolve_right made
    rw [Registry.contains_iff, Option.ne_none_iff_exists'] at stood
    obtain ⟨before, kept⟩ := stood
    exact .inr ⟨before, kept, apply_writes done made kept stands⟩

end Evaluator

namespace Engine

variable {first last engine : Engine} {rolls : List Roll} {roll : Roll} {now : Instant} {applied : Applied}
  {name mark : String}

/-- A card that applying a roll leaves is new, or it comes by writes from the card that stood under the name. Its
changes are told. -/
theorem apply_card {card : Card} (done : engine.apply now roll = .ok applied)
    (stands : applied.engine.board.registry.get? name = some card) :
    (∃ kind, card = (Card.new kind name now).withoutChanges) ∨
      ∃ before after, engine.board.registry.get? name = some before ∧ before.Writes now after ∧
        card = after.withoutChanges := by
  obtain ⟨board, names, applies, settled, _⟩ := apply_ok done
  rw [settled] at stands
  change board.registry.withoutChanges.get? name = some card at stands
  rw [Registry.get?_withoutChanges] at stands
  obtain ⟨after, left, rfl⟩ := Option.map_eq_some_iff.1 stands
  rcases Evaluator.apply_card (Roll.apply_ok applies).2.1 left with ⟨kind, rfl⟩ | ⟨before, kept, writes⟩
  · exact .inl ⟨kind, rfl⟩
  · exact .inr ⟨before, after, kept, writes, rfl⟩

/-- Whatever happens, all cards have what new cards have and writes keep. The induction is on what happened before
the last step. -/
theorem Steps.every (steps : Steps first rolls last) {holds : Card → Prop} (lasting : Card.Lasting holds)
    (held : first.board.registry.Every holds) : last.board.registry.Every holds := by
  induction steps with
  | start => exact held
  | answers before answered inductionHypothesis =>
      rw [answered.records.board]
      exact inductionHypothesis
  | apply before done inductionHypothesis =>
      intro name card stands
      rcases apply_card done stands with ⟨kind, rfl⟩ | ⟨before, after, kept, writes, rfl⟩
      · exact lasting.drained (lasting.new kind name _)
      · exact lasting.drained (lasting.writes writes (inductionHypothesis name before kept))

/-- All cards are new. -/
def AllNew (engine : Engine) : Prop :=
  ∀ name card, engine.board.registry.get? name = some card → ∃ kind created, card = .new kind name created

theorem AllNew.every (new : first.AllNew) {holds : Card → Prop} (lasting : Card.Lasting holds) :
    first.board.registry.Every holds := by
  intro name card stands
  obtain ⟨kind, created, rfl⟩ := new name card stands
  exact lasting.new kind name created

/-! When marks are set -/

/-- Applying the roll sets a mark on the card, which stood on the board without it. -/
structure SetsMark (engine : Engine) (now : Instant) (roll : Roll) (applied : Applied) (name mark : String)
    (card : CocCard) : Prop where
  applies : engine.apply now roll = .ok applied
  kept : engine.board.registry.get? name = some (.coc card)
  absent : mark ∉ card.growthMarks
  set : ∃ after, applied.engine.board.registry.get? name = some (.coc after) ∧ mark ∈ after.growthMarks

/-- A mark on a card was there before a roll was applied, or applying the roll set it. No keys are lost. -/
theorem apply_mark {card : CocCard} (done : engine.apply now roll = .ok applied)
    (made : engine.board.registry.Every Card.Made)
    (stands : applied.engine.board.registry.get? name = some (.coc card)) (there : mark ∈ card.growthMarks) :
    ∃ before, engine.board.registry.get? name = some (.coc before) ∧ before.KeepsKeys card ∧
      (mark ∈ before.growthMarks ∨ engine.SetsMark now roll applied name mark before) := by
  rcases apply_card done stands with ⟨kind, new⟩ | ⟨before, after, kept, writes, left⟩
  · cases kind with
    | coc =>
        cases new
        exact absurd there Std.ExtTreeSet.not_mem_empty
    | general => cases new
    | dnd => cases new
  · have kind := writes.kind
    cases before with
    | coc before =>
        obtain ⟨written, rfl, _, keeps⟩ := writes.keepsKeys rfl (made name _ kept).inOrder
        cases left
        refine ⟨before, kept, fun part key listed => ?_, ?_⟩
        · cases part <;> exact keeps _ key listed
        · by_cases old : mark ∈ before.growthMarks
          · exact .inl old
          · exact .inr ⟨done, kept, old, _, stands, there⟩
    | general =>
        cases after <;> cases left
        cases kind
    | dnd =>
        cases after <;> cases left
        cases kind

/-- A mark on a card was set by a roll that was applied to it since it was new. The induction is on what happened
before the last step. -/
theorem Steps.mark_set {card : CocCard} (steps : Steps first rolls last) (new : first.AllNew)
    (kept : last.board.registry.get? name = some (.coc card)) (there : mark ∈ card.growthMarks) :
    ∃ earlier roll later, rolls = earlier ++ roll :: later ∧ ∃ middle now applied before,
      Steps first earlier middle ∧ middle.SetsMark now roll applied name mark before ∧
      Steps applied.engine later last ∧ before.KeepsKeys card := by
  induction steps generalizing card with
  | start =>
      obtain ⟨kind, created, is⟩ := new name _ kept
      cases kind with
      | coc =>
          cases is
          exact absurd there Std.ExtTreeSet.not_mem_empty
      | general => cases is
      | dnd => cases is
  | answers before answered inductionHypothesis =>
      rw [answered.records.board] at kept
      obtain ⟨earlier, roll, later, split, middle, now, applied, set, initial, sets, rest, keeps⟩ :=
        inductionHypothesis kept there
      exact ⟨earlier, roll, later, split, middle, now, applied, set, initial, sets, .answers rest answered, keeps⟩
  | @apply rolls engine moment last applied steps done inductionHypothesis =>
      obtain ⟨before, stood, keeps, old | sets⟩ := apply_mark done (steps.every Card.made_lasting
        (new.every Card.made_lasting)) kept there
      · obtain ⟨earlier, roll, later, rfl, middle, now, first, set, initial, sets, rest, keepsFirst⟩ :=
          inductionHypothesis stood old
        exact ⟨earlier, roll, later ++ [last], by rw [List.append_assoc, List.cons_append], middle, now, first,
          set, initial, sets, .apply rest done, keepsFirst.trans keeps⟩
      · exact ⟨rolls, last, [], rfl, engine, moment, applied, before, steps, sets, .start, keeps⟩

end Engine

end Tabletop
