/-
This file proves which calculations commands make exactly, whatever happened to the cards before.

No command checks the numbers that it writes, so sums of large numbers on a card leave 64 bits. They do not as
long as all numbers on the card fit into 63 bits.
-/

import Tabletop.Proofs.Engine.Interleaving
import Tabletop.Proofs.Roll.Exact
import Tabletop.Proofs.Roll.Writes

namespace Tabletop

open Number

/-- All cards have the numbers in bounds that every command keeps there. -/
def Registry.Bounded (registry : Registry) : Prop :=
  ∀ name card, registry.get? name = some card → card.Bounded

theorem Registry.Bounded.withoutChanges {registry : Registry} (held : registry.Bounded) :
    registry.withoutChanges.Bounded := by
  intro name card stands
  rw [Registry.get?_withoutChanges] at stands
  obtain ⟨before, kept, rfl⟩ := Option.map_eq_some_iff.1 stands
  exact (Card.SameNumbers.core before _).bounded (held name before kept)

namespace Evaluator

variable {evaluator : Evaluator} {now : Instant} {context : Context} {board after : Board}
  {names : List String}

/-- Applying a roll leaves the numbers of all cards in their bounds. -/
theorem apply_bounded (done : evaluator.apply now context board = .ok (after, names))
    (held : board.registry.Bounded) : after.registry.Bounded := by
  intro name card stands
  by_cases made : evaluator.made? = some name
  · obtain ⟨kind, new⟩ := apply_makes done made
    obtain rfl := Option.some.inj (stands.symm.trans new)
    exact Card.new_bounded kind name now
  · have there : after.registry.contains name = true := by
      rw [Registry.contains_iff, stands]
      exact Option.some_ne_none card
    have stood := ((apply_effect done).made there).resolve_right made
    rw [Registry.contains_iff, Option.ne_none_iff_exists'] at stood
    obtain ⟨before, kept⟩ := stood
    exact (apply_writes done made kept stands).bounded (held name before kept)

end Evaluator

namespace Engine

variable {first last : Engine} {rolls : List Roll}

/-- Whatever happens, the numbers of all cards stay in their bounds. The induction is on what happened before the
last step. -/
theorem Steps.bounded (steps : Steps first rolls last) (held : first.board.registry.Bounded) :
    last.board.registry.Bounded := by
  induction steps with
  | start => exact held
  | answers before answered inductionHypothesis =>
      rw [answered.records.board]
      exact inductionHypothesis
  | apply before done inductionHypothesis =>
      obtain ⟨board, names, applies, settled, _⟩ := apply_ok done
      rw [settled]
      exact (Evaluator.apply_bounded (Roll.apply_ok applies).2.1 inductionHypothesis).withoutChanges

/-- Handles commands one after the other and applies the roll of each at once. -/
def obey (engine : Engine) : List Command → Option Engine
  | [] => some engine
  | command :: rest => do
    let dispatched ← (engine.dispatch .epoch command).toOption
    let roll ← dispatched.roll
    let applied ← (dispatched.engine.apply .epoch roll).toOption
    applied.engine.obey rest

theorem obey_steps {commands : List Command} {middle : Engine} (before : Steps first rolls middle)
    (done : middle.obey commands = some last) : ∃ all, Steps first all last := by
  induction commands generalizing middle rolls with
  | nil =>
      obtain rfl := Option.some.inj done
      exact ⟨rolls, before⟩
  | cons command rest inductionHypothesis =>
      simp only [obey, Option.bind_eq_bind, Option.bind_eq_some_iff, toOption_eq_some] at done
      obtain ⟨dispatched, handled, roll, _, applied, applies, done⟩ := done
      exact inductionHypothesis (.apply (.answers before (.command .start handled)) applies) done

/-- A new card and its holder. -/
def newHolder : List RegistryCall :=
  [.register (.new .coc "A" .epoch), .link "c1" "u1" (some "A")]

/-- The card with numbers that are not too large. -/
def sturdy : CocCard :=
  { CocCard.new "A" .epoch with props := .ofPairs [("体质", 50), ("体型", 60)] }

/-- The card with the least numbers that are too large. -/
def giant : CocCard :=
  { CocCard.new "A" .epoch with
    props := .ofPairs [("体质", 4611686018427387904), ("体型", 4611686018427387904)] }

end Engine

end Tabletop
