/-
This file proves in which order and bounds the numbers of all cards are that setters make of new ones.
-/

import Tabletop.Proofs.Card.Attributes
import Tabletop.Proofs.Card.Resources

namespace Tabletop

namespace Card

/-- The cards that setters make of new ones. Changes that were told are no longer pending. -/
inductive Made : Card → Prop where
  | new (kind : CardKind) (name : String) (now : Instant) : Made (.new kind name now)
  | call {now : Instant} {card after : Card} {call : CardWrite} {changed : Bool} (made : Made card)
      (written : card.write now call = .ok (after, changed)) : Made after
  | saves {card : DndCard} (made : Made (.dnd card)) (now : Instant) (saving : DeathSaving) :
      Made (.dnd (card.setDeathSaving now saving))
  | drained {card : Card} (made : Made card) : Made card.withoutChanges

/-- Each key stands in the part that it is written to, and no two keys of a part differ in case alone. -/
def InOrder : Card → Prop
  | .general card => card.skills.CaseDistinct
  | .coc card => card.InOrder
  | .dnd card => card.InOrder

variable {card after : Card} {now : Instant}

theorem new_inOrder (kind : CardKind) (name : String) (now : Instant) : (new kind name now).InOrder := by
  cases kind with
  | general => exact Table.CaseDistinct.empty
  | coc => exact CocCard.new_inOrder name now
  | dnd => exact DndCard.new_inOrder name now

theorem SameNumbers.inOrder (same : SameNumbers card after) (ordered : card.InOrder) : after.InOrder := by
  cases same with
  | core _ core =>
      cases card with
      | general card => exact ordered
      | coc card => exact CocCard.InOrder.congr ordered fun part => by cases part <;> rfl
      | dnd card => exact { (ordered : card.InOrder) with }
  | marks card core marks => exact CocCard.InOrder.congr ordered fun part => by cases part <;> rfl

theorem write_inOrder {call : CardWrite} {changed : Bool} (ordered : card.InOrder)
    (written : card.write now call = .ok (after, changed)) : after.InOrder := by
  by_cases entry : ∃ input value, call = .entry input value
  · obtain ⟨input, value, rfl⟩ := entry
    cases write_entry written with
    | general card => exact Table.CaseDistinct.insert ordered input value
    | coc card => exact CocCard.InOrder.setEntry ordered now input value
    | dnd done => exact DndCard.InOrder.setEntry ordered done
  · exact (write_sameNumbers written fun input value is => entry ⟨input, value, is⟩).inOrder ordered

/-- Setters put each key in its part. -/
theorem Made.inOrder (made : card.Made) : card.InOrder := by
  induction made with
  | new kind name now => exact new_inOrder kind name now
  | call _ written inductionHypothesis => exact write_inOrder inductionHypothesis written
  | @saves card _ now saving inductionHypothesis =>
      obtain ⟨core, saved, same⟩ := card.setDeathSaving_eq now saving
      rw [same]
      exact { (inductionHypothesis : card.InOrder) with }
  | drained _ inductionHypothesis => exact (SameNumbers.core _ _).inOrder inductionHypothesis

/-- Setters keep sanity and training in their bounds. -/
theorem Made.bounded (made : card.Made) : card.Bounded := by
  induction made with
  | new kind name now => exact new_bounded kind name now
  | call _ written inductionHypothesis => exact write_bounded inductionHypothesis written
  | @saves card _ now saving inductionHypothesis =>
      obtain ⟨core, saved, same⟩ := card.setDeathSaving_eq now saving
      rw [same]
      exact inductionHypothesis
  | drained _ inductionHypothesis => exact (SameNumbers.core _ _).bounded inductionHypothesis

/-- Setters keep resources from falling below zero. -/
theorem Made.resource_nonneg (made : card.Made) (resource : Resource) {value : Int}
    (stored : resource.stored? card = some value) : 0 ≤ value := by
  induction made generalizing value with
  | new kind name now =>
      rw [Resource.stored?_new] at stored
      cases stored
  | @call now card after call changed _ written inductionHypothesis =>
      by_cases own : resource.WrittenBy call
      · obtain ⟨input, number, rfl, named⟩ := own
        by_cases has : card.kind = resource.kind
        · rw [Resource.stored?_of_named has written named] at stored
          cases stored
          exact CocCard.bounded_nonneg _ _
        · have kind : after.kind ≠ resource.kind := (write_kind written).symm ▸ has
          cases resource <;> cases after <;> first | cases stored | exact absurd rfl kind
      · rw [Resource.stored?_of_other written own] at stored
        exact inductionHypothesis stored
  | @saves card _ now saving inductionHypothesis =>
      obtain ⟨core, saved, same⟩ := card.setDeathSaving_eq now saving
      rw [same] at stored
      cases resource with
      | dndHitPoints => exact inductionHypothesis stored
      | cocHitPoints => cases stored
      | cocMagicPoints => cases stored
  | @drained card _ inductionHypothesis =>
      refine inductionHypothesis ?_
      cases resource <;> cases card <;> exact stored

end Card

end Tabletop
