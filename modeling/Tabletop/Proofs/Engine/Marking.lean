/-
This file proves on which card a roll marks the skills that grow.

The skills are tested on the card that the sender holds when the command is handled, and they are marked
on the card that the sender holds when the roll is applied. The two are one card unless a roll that was
applied in between gave the sender another one or made it.
-/

import Tabletop.Proofs.Engine.Deletion
import Tabletop.Proofs.Engine.Dispatch
import Tabletop.Proofs.Engine.Interleaving

namespace Tabletop

namespace Registry

variable {registry : Registry} {channel user name : String}

theorem linkedName?_eq_some (unique : registry.links.Unique) :
    registry.linkedName? channel user = some name ↔
      ⟨channel, user, name⟩ ∈ registry.links ∧ registry.contains name = true := by
  rw [linkedName?, Option.filter_eq_some_iff, unique.cardOf?_eq_some]

end Registry

/-- The skills that a roll marks when it is applied. -/
def Evaluator.marks? : Evaluator → Option (List String)
  | .standard roll => some roll.growth
  | .opposed roll => some roll.inner.growth
  | _ => none

/-- All skills are marked on the card that the user holds. The other cards and all links stay. -/
structure Registry.Marked (now : Instant) (context : Context) (marks : List String)
    (before after : Registry) : Prop where
  links : after.links = before.links
  held : ∀ name card, before.linkedName? context.channel context.user = some name →
    before.get? name = some card →
      after.get? name = some (GrowthRoll.setMarks now marks card).1.withoutChanges
  others : ∀ name, before.linkedName? context.channel context.user ≠ some name →
    after.get? name = (before.get? name).map Card.withoutChanges

/-- Marking skills on the card that a user holds never fails. -/
theorem StandardRoll.apply_marked (roll : StandardRoll) (now : Instant) (context : Context)
    (board : Board) :
    ∃ after names, roll.apply now context board = .ok (after, names) ∧
      board.registry.Marked now context roll.growth after.registry.withoutChanges := by
  cases linked : board.registry.linkedName? context.channel context.user with
  | none =>
      refine ⟨board, [], ?_, rfl, ?_, fun name _ => Registry.get?_withoutChanges name⟩
      · rw [apply, linked]
      · intro name card held
        rw [linked] at held
        cases held
  | some name =>
      obtain ⟨card, kept⟩ : ∃ card, board.registry.get? name = some card :=
        Option.ne_none_iff_exists'.1
          ((board.registry.contains_iff name).1 (Option.filter_eq_some_iff.1 linked).2)
      have told := GrowthRoll.setMarks_tells now roll.growth card
      have named : (GrowthRoll.setMarks now roll.growth card).1.name = name :=
        told.name.trans (board.registry.named name card kept)
      have done : roll.apply now context board =
          .ok ({ board with
              registry := board.registry.register (GrowthRoll.setMarks now roll.growth card).1 },
            if (GrowthRoll.setMarks now roll.growth card).2 then [name] else []) := by
        rw [apply, linked]
        exact Board.changeCard_of_ok kept rfl told.name
      refine ⟨_, _, done, rfl, ?_, ?_⟩
      · intro other before held stands
        rw [linked] at held
        cases held
        rw [kept] at stands
        cases stands
        rw [Registry.get?_withoutChanges, Registry.get?_register, if_pos named]
        rfl
      · intro other foreign
        have different : (GrowthRoll.setMarks now roll.growth card).1.name ≠ other := by
          rintro rfl
          exact foreign (linked.trans (congrArg some named.symm))
        rw [Registry.get?_withoutChanges]
        exact congrArg _ ((Registry.get?_register _ _).trans (if_neg different))

namespace Engine

variable {engine first last : Engine} {now later : Instant} {command : Command}
  {dispatched : Dispatched} {roll : Roll} {between : List Roll} {marks : List String}

theorem apply_marked (rolled : roll.phase = .rolled) (marking : roll.evaluator.marks? = some marks)
    (engine : Engine) (now : Instant) :
    ∃ applied, engine.apply now roll = .ok applied ∧
      engine.board.registry.Marked now roll.context marks applied.engine.board.registry := by
  have applies : ∃ after names,
      roll.evaluator.apply now roll.context engine.board = .ok (after, names) ∧
        engine.board.registry.Marked now roll.context marks after.registry.withoutChanges := by
    cases evaluator : roll.evaluator with
    | standard standard =>
        rw [evaluator] at marking
        cases marking
        exact standard.apply_marked now roll.context engine.board
    | opposed opposed =>
        rw [evaluator] at marking
        cases marking
        exact opposed.inner.apply_marked now roll.context engine.board
    | _ =>
        rw [evaluator] at marking
        cases marking
  obtain ⟨after, names, done, marked⟩ := applies
  obtain ⟨messages, applied⟩ := apply_of_roll (Roll.apply_of_evaluator rolled done)
  exact ⟨_, applied, marked⟩

/-- The card that a user holds at the end was the user's at the start, or a roll gave it to the user or
made it. -/
theorem Steps.linkedName? (steps : Steps first between last)
    (unique : first.board.registry.links.Unique) {channel user name : String}
    (linked : last.board.registry.linkedName? channel user = some name) :
    first.board.registry.linkedName? channel user = some name ∨
      ∃ other ∈ between, other.Gives ⟨channel, user, name⟩ ∨ other.evaluator.made? = some name := by
  obtain ⟨member, there⟩ := (Registry.linkedName?_eq_some (steps.linksUnique unique)).1 linked
  rw [Registry.linkedName?_eq_some unique]
  rcases steps.gained member with held | ⟨other, inBetween, gives⟩
  · rcases steps.made there with stood | ⟨other, inBetween, made⟩
    · exact .inl ⟨held, stood⟩
    · exact .inr ⟨other, inBetween, .inr made⟩
  · exact .inr ⟨other, inBetween, .inl gives⟩

/-- The sender holds a card with a skill, and another card is free. -/
def skilledHolder : List RegistryCall :=
  [.register (.coc { CocCard.new "A" .epoch with skills := .ofPairs [("侦查", 50)] }),
    .register (.new .coc "B" .epoch), .link "c1" "u1" (some "A")]

end Engine

end Tabletop
