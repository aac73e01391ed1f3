/-
This file proves that a command leaves alone what belongs to other users and channels.

The roll of a command aims at cards of its sender, and applying it has an effect on what it aims at.
-/

import Tabletop.Proofs.Engine.Apply
import Tabletop.Proofs.Engine.Dispatch

namespace Tabletop

namespace Evaluator

variable {scene : Scene} {evaluator : Evaluator} {name : String}

/-- A roll writes to no card but the one that the sender holds. -/
theorem Aims.held (aims : evaluator.Aims scene)
    (named : evaluator.card? scene.context scene.board = some name) : scene.cardName? = some name := by
  cases evaluator with
  | standard roll => exact named
  | opposed roll => exact named
  | sanity roll => exact aims name named
  | growth roll => exact aims name named
  | edit roll => exact aims name named
  | deathSave roll => exact aims name named
  | _ => cases named

/-- The name of a card that a roll makes is free. -/
theorem Aims.made (aims : evaluator.Aims scene) (made : evaluator.made? = some name) :
    scene.board.registry.get? name = none := by
  unfold made? at made
  split at made
  · have free : scene.board.registry.contains name = false := aims.2 name made
    have absent := mt (scene.board.registry.contains_iff name).2 (Bool.eq_false_iff.1 free)
    simpa using absent
  · cases made

end Evaluator

namespace Evaluator.Effect

variable {now : Instant} {context : Context} {board after : Board} {names : List String}
  {evaluator : Evaluator}

theorem initiative_others (effect : Effect now context board evaluator after names) {channel : String}
    (other : channel ≠ context.channel) :
    after.initiative[channel]? = board.initiative[channel]? := by
  cases effect with
  | initiative others => exact others channel other
  | _ => rfl

/-- Unless a card is deleted, only links of the sender and links to the sender's card change. -/
theorem links (effect : Effect now context board evaluator after names)
    (kept : evaluator.deleted? = none) :
    Links.Relinks context.channel context.user board.registry.links after.registry.links := by
  cases effect with
  | idle => exact .same _ _ _
  | initiative others => exact .same _ _ _
  | card aimed found told => exact .same _ _ _
  | link card => exact Registry.link_relinks _ _ card
  | @make kind new made => exact Links.give_relinks _ _ _ new
  | @delete gone deleted =>
      rw [kept] at deleted
      cases deleted

end Evaluator.Effect

namespace Engine

/-- Opening a roll to replies changes the open rolls of its channel alone. -/
theorem openIfWanted_others (engine : Engine) (roll : Roll) {channel : String}
    (other : channel ≠ roll.context.channel) :
    (engine.openIfWanted roll).openRolls[channel]? = engine.openRolls[channel]? := by
  rcases openIfWanted_cases engine roll with same | ⟨message, snapshot, _, _, _, _, added⟩
  · rw [same]
  · rw [added]
    exact (Table.get_insert _ _ _ _).trans (if_neg other.symm)

/-- What a command of a user in a channel leaves alone: the cards that the user does not hold there, the
lists, open rolls and configs of other channels, and the links of others. Its roll may make or delete
one card. All records of changes are handed to the hooks. -/
structure Isolated (context : Context) (roll : Evaluator) (before after : Engine) : Prop where
  cards : ∀ name, before.board.registry.linkedName? context.channel context.user ≠ some name →
    roll.made? ≠ some name → roll.deleted? ≠ some name →
    after.board.registry.get? name = (before.board.registry.get? name).map Card.withoutChanges
  made : ∀ name, roll.made? = some name → before.board.registry.get? name = none
  deleted : ∀ name, roll.deleted? = some name → after.board.registry.get? name = none
  initiative : ∀ channel, channel ≠ context.channel →
    after.board.initiative[channel]? = before.board.initiative[channel]?
  openRolls : ∀ channel, channel ≠ context.channel →
    after.openRolls[channel]? = before.openRolls[channel]?
  configs : after.configs = before.configs
  links : roll.deleted? = none →
    Links.Relinks context.channel context.user before.board.registry.links after.board.registry.links

/-- A command that is handled and then applied leaves alone what is not its sender's. The sender and the
channel are those of the command that the hooks leave. -/
theorem command_isolated {engine : Engine} {now later : Instant} {command : Command}
    {dispatched : Dispatched} {roll : Roll} {applied : Applied}
    (handled : engine.dispatch now command = .ok dispatched)
    (rolled : dispatched.roll = some roll)
    (done : dispatched.engine.apply later roll = .ok applied) :
    Isolated (engine.received command).context roll.evaluator engine applied.engine := by
  rcases dispatch_cases handled with ⟨idle, _⟩ | ⟨made, faces, given, evaluated, opened⟩
  · rw [rolled] at idle
    cases idle
  rw [rolled] at given
  cases given
  obtain ⟨_, context, aims⟩ := evaluate_roll evaluated
  have records := dispatch_records handled
  obtain ⟨after, names, applies, settled, _⟩ := apply_ok done
  have evaluator := (Roll.apply_ok applies).2.1
  rw [records.board, context] at evaluator
  have effect := Evaluator.apply_effect evaluator
  rw [settled]
  exact
    { cards := by
        intro name unheld unmade kept
        have unwritten : roll.evaluator.card? (engine.received command).context engine.board ≠
            some name := fun named => unheld (aims.held named)
        rw [← effect.cards unwritten unmade kept]
        exact Registry.get?_withoutChanges name
      made := fun name made => aims.made made
      deleted := by
        intro name deleted
        change after.registry.withoutChanges.get? name = none
        rw [Registry.get?_withoutChanges, Evaluator.apply_deleted evaluator deleted, Option.map_none]
      initiative := fun channel other => effect.initiative_others other
      openRolls := by
        intro channel other
        change dispatched.engine.openRolls[channel]? = engine.openRolls[channel]?
        rw [opened]
        exact openIfWanted_others _ roll (context ▸ other)
      configs := records.configs
      links := effect.links }

/-- A new card is made, and it is the sender's. -/
theorem command_isolated_newCard :
    ∃ dispatched roll applied, muted.dispatch .epoch ⟨"pc new coc A", sender⟩ = .ok dispatched ∧
      dispatched.roll = some roll ∧ dispatched.engine.apply .epoch roll = .ok applied ∧
      applied.engine.board.registry.linkedName? "c1" "u1" = some "A" ∧
      Isolated sender roll.evaluator muted applied.engine := by
  obtain ⟨dispatched, handled, rolls⟩ := exists_of_any
    (muted.dispatch .epoch ⟨"pc new coc A", sender⟩)
    (fun dispatched => dispatched.roll.any fun roll => (dispatched.engine.apply .epoch roll).toOption.any
      fun applied => applied.engine.board.registry.linkedName? "c1" "u1" == some "A")
    (by decide +kernel)
  obtain ⟨roll, rolled, applies⟩ := (Option.any_eq_true _ _).1 rolls
  obtain ⟨applied, done, linked⟩ := exists_of_any _ _ applies
  exact ⟨dispatched, roll, applied, handled, rolled, done, eq_of_beq linked,
    command_isolated handled rolled done⟩

end Engine

end Tabletop
