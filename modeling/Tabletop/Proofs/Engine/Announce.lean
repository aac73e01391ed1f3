/-
This file proves that the hooks hear of the changes that applying a roll makes.

Death saving throws are the exception: they are stored without a record. A new card that takes the
place of a registered one has no record either.
-/

import Tabletop.Proofs.Engine.Apply
import Tabletop.Proofs.Engine.Dispatch
import Tabletop.Proofs.Roll.Writes

namespace Tabletop

theorem Registry.mem_changes {registry : Registry} {name : String} {card : Card} {change : CardChange}
    (stands : registry.get? name = some card) (recorded : change ∈ card.core.changes) :
    change ∈ registry.changes := by
  have listed : (name, card) ∈ registry.cards.toList :=
    Std.ExtTreeMap.mem_toList_iff_getElem?_eq_some.2 stands
  rw [changes, List.mem_flatten]
  exact ⟨_, List.mem_map.2 ⟨_, listed, rfl⟩, recorded⟩

namespace Engine

variable {engine : Engine} {now : Instant} {roll next : Roll} {board : Board} {names : List String}

/-- The engine tells each hook of each change that is recorded on the board. -/
theorem apply_tells (done : roll.apply now roll.context engine.board = .ok (next, board, names)) :
    ∃ applied, engine.apply now roll = .ok applied ∧
      applied.engine = engine.settled board ∧
      ∀ change ∈ board.registry.changes,
        ∀ hook ∈ (engine.setup roll.context.channel).cardEntryChangeHooks,
          ∀ message ∈ hook change, message ∈ applied.messages := by
  obtain ⟨_, _, rfl⟩ := Roll.apply_ok done
  unfold apply
  rw [done]
  refine ⟨_, rfl, rfl, ?_⟩
  intro change recorded hook used message sent
  exact List.mem_flatMap.2 ⟨change, recorded, List.mem_flatMap.2 ⟨hook, used, sent⟩⟩

/-- Applying a roll records a change of each registered card whose stored content changes, and tells
the hooks of it. This does not hold of death saving throws, and not of a card whose place a new card
takes. -/
theorem apply_announces
    (done : roll.apply now roll.context engine.board = .ok (next, board, names)) :
    ∃ applied, engine.apply now roll = .ok applied ∧
      applied.engine = engine.settled board ∧
      ∀ name before card, roll.evaluator.made? ≠ some name →
        engine.board.registry.get? name = some before →
        board.registry.get? name = some card →
        card.besidesSaves ≠ before.besidesSaves →
        ∃ added, added ≠ [] ∧ card.core.changes = before.core.changes ++ added ∧
          ∀ change ∈ added, change.cardName = name ∧
            ∀ hook ∈ (engine.setup roll.context.channel).cardEntryChangeHooks,
              ∀ message ∈ hook change, message ∈ applied.messages := by
  obtain ⟨applied, same, settled, told⟩ := apply_tells done
  refine ⟨applied, same, settled, ?_⟩
  intro name before card unmade kept stands other
  have writes := Evaluator.apply_writes (Roll.apply_ok done).2.1 unmade kept stands
  obtain ⟨added, announced⟩ := writes.announces
  refine ⟨added, fun none => other (announced.quiet none), announced.logs.record, ?_⟩
  intro change member
  refine ⟨(announced.logs.named change member).trans (engine.board.registry.named name before kept),
    fun hook used message sent => told change ?_ hook used message sent⟩
  apply Registry.mem_changes stands
  rw [announced.logs.record]
  exact List.mem_append_right _ member

/-- An engine in which the sender holds a character. Its replies are empty. -/
def withAdventurer : Engine :=
  (saying (["roll.st.prompt", "roll.st.line", "roll.ds.start", "roll.ds.failure", "roll.ds.worst",
    "roll.ds.tally"].map fun key => (key, []))).setRegistry
      ((Registry.empty.register (.new .dnd "Tav" .epoch)).link "c1" "u1" (some "Tav"))

/-- A new number of hit points is recorded. -/
theorem apply_announces_hitPoints :
    ∃ dispatched roll next board names before card,
      withAdventurer.dispatch .epoch ⟨"st hp5", sender⟩ = .ok dispatched ∧
      dispatched.roll = some roll ∧
      roll.apply .epoch roll.context dispatched.engine.board = .ok (next, board, names) ∧
      dispatched.engine.board.registry.get? "Tav" = some before ∧
      board.registry.get? "Tav" = some card ∧
      ∃ added, added ≠ [] ∧ card.core.changes = before.core.changes ++ added ∧
        ∀ change ∈ added, change.cardName = "Tav" := by
  obtain ⟨dispatched, handled, rolls⟩ := exists_of_any
    (withAdventurer.dispatch .epoch ⟨"st hp5", sender⟩)
    (fun dispatched => dispatched.roll.any fun roll => roll.evaluator.made? != some "Tav" &&
      (roll.apply .epoch roll.context dispatched.engine.board).toOption.any fun result =>
        (dispatched.engine.board.registry.get? "Tav").any fun before =>
          (result.2.1.registry.get? "Tav").any fun card => card.besidesSaves != before.besidesSaves)
    (by decide +kernel)
  obtain ⟨roll, rolled, applies⟩ := (Option.any_eq_true _ _).1 rolls
  obtain ⟨unmade, applies⟩ := Bool.and_eq_true_iff.1 applies
  obtain ⟨⟨next, board, names⟩, done, changed⟩ := exists_of_any _ _ applies
  obtain ⟨before, kept, changed⟩ := (Option.any_eq_true _ _).1 changed
  obtain ⟨card, stands, other⟩ := (Option.any_eq_true _ _).1 changed
  obtain ⟨applied, _, _, told⟩ := apply_announces done
  obtain ⟨added, some, recorded, named⟩ :=
    told "Tav" before card (bne_iff_ne.1 unmade) kept stands (bne_iff_ne.1 other)
  exact ⟨dispatched, roll, next, board, names, before, card, handled, rolled, done, kept, stands,
    added, some, recorded, fun change member => (named change member).1⟩

/-- A death saving throw changes what is stored of the card, and nothing is recorded. -/
theorem apply_announces_deathSave :
    ∃ dispatched roll next board names before card,
      withAdventurer.dispatch .epoch ⟨"ds", sender⟩ = .ok dispatched ∧
      dispatched.roll = some roll ∧
      roll.apply .epoch roll.context dispatched.engine.board = .ok (next, board, names) ∧
      dispatched.engine.board.registry.get? "Tav" = some before ∧
      board.registry.get? "Tav" = some card ∧
      card.content ≠ before.content ∧ board.registry.changes = [] := by
  obtain ⟨dispatched, handled, rolls⟩ := exists_of_any
    (withAdventurer.dispatch .epoch ⟨"ds", sender⟩)
    (fun dispatched => dispatched.roll.any fun roll =>
      (roll.apply .epoch roll.context dispatched.engine.board).toOption.any fun result =>
        (dispatched.engine.board.registry.get? "Tav").any fun before =>
          (result.2.1.registry.get? "Tav").any fun card => card.content != before.content &&
            result.2.1.registry.changes.isEmpty)
    (by decide +kernel)
  obtain ⟨roll, rolled, applies⟩ := (Option.any_eq_true _ _).1 rolls
  obtain ⟨⟨next, board, names⟩, done, changed⟩ := exists_of_any _ _ applies
  obtain ⟨before, kept, changed⟩ := (Option.any_eq_true _ _).1 changed
  obtain ⟨card, stands, changed⟩ := (Option.any_eq_true _ _).1 changed
  obtain ⟨other, silent⟩ := Bool.and_eq_true_iff.1 changed
  exact ⟨dispatched, roll, next, board, names, before, card, handled, rolled, done, kept, stands,
    bne_iff_ne.1 other, List.isEmpty_iff.1 silent⟩

end Engine

end Tabletop
