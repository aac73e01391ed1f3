/-
This file proves what the registry can go through between two moments of an engine.

Commands are handled and rolls are applied in any order. Handling a command changes nothing, so whatever
differs at the end was done by a roll that was applied on the way.
-/

import Tabletop.Proofs.Card.Links
import Tabletop.Proofs.Engine.Apply
import Tabletop.Proofs.Engine.Dispatch

namespace Tabletop

namespace Registry

variable {registry : Registry} {name : String}

theorem contains_eq_false : registry.contains name = false ↔ registry.get? name = none := by
  rw [← Bool.not_eq_true, contains_iff, not_not]

theorem contains_register {card : Card} :
    (registry.register card).contains name = true ↔
      card.name = name ∨ registry.contains name = true := by
  rw [contains_iff, contains_iff, get?_register]
  split
  · next same => simp [same]
  · next other => simp [other]

theorem contains_unregister {gone : String} :
    (registry.unregister gone).contains name = true ↔
      gone ≠ name ∧ registry.contains name = true := by
  rw [contains_iff, contains_iff, get?_unregister]
  split
  · next same => simp [same]
  · next other => simp [other]

@[simp] theorem contains_link (channel user : String) (card : Option String) :
    (registry.link channel user card).contains name = registry.contains name := by
  rw [Bool.eq_iff_iff, contains_iff, contains_iff, get?_link]

@[simp] theorem contains_withoutChanges :
    registry.withoutChanges.contains name = registry.contains name := by
  rw [Bool.eq_iff_iff, contains_iff, contains_iff, get?_withoutChanges, ne_eq, Option.map_eq_none_iff]

@[simp] theorem links_withoutChanges : registry.withoutChanges.links = registry.links := rfl

theorem links_unregister_subset {link : Link} (member : link ∈ (registry.unregister name).links) :
    link ∈ registry.links := by
  unfold unregister at member
  split at member
  · exact (List.mem_filter.1 member).1
  · exact member

theorem unregister_linksUnique (unique : registry.links.Unique) (name : String) :
    (registry.unregister name).links.Unique := by
  unfold unregister
  split
  · exact unique.forget name
  · exact unique

end Registry

namespace Evaluator

variable {now : Instant} {context : Context} {board after : Board} {names : List String}
  {evaluator : Evaluator}

theorem given?_of_made {name : String} (made : evaluator.made? = some name) :
    evaluator.given? = some name := by
  cases evaluator with
  | admin roll => exact made
  | _ => cases made

namespace Effect

theorem linksUnique (effect : Effect now context board evaluator after names)
    (unique : board.registry.links.Unique) : after.registry.links.Unique := by
  cases effect with
  | link card given =>
      cases card with
      | none => exact unique.take _ _
      | some card => exact unique.give _ _ _
  | make made => exact unique.give _ _ _
  | delete deleted => exact Registry.unregister_linksUnique unique _
  | _ => exact unique

/-- A new link is one that the roll gives to its sender. -/
theorem gained (effect : Effect now context board evaluator after names) {link : Link}
    (member : link ∈ after.registry.links) (absent : link ∉ board.registry.links) :
    evaluator.given? = some link.card ∧ context.channel = link.channel ∧ context.user = link.user := by
  have of_give {name : String} (given : evaluator.given? = some name)
      (there : link ∈ board.registry.links.give context.channel context.user name) :
      evaluator.given? = some link.card ∧ context.channel = link.channel ∧
        context.user = link.user := by
    rcases Links.mem_give.1 there with old | rfl
    · exact absurd old.1 absent
    · exact ⟨given, rfl, rfl⟩
  cases effect with
  | link card given =>
      cases card with
      | none => exact absurd (Links.mem_take.1 member).1 absent
      | some card => exact of_give given member
  | make made => exact of_give (given?_of_made made) member
  | delete deleted => exact absurd (Registry.links_unregister_subset member) absent
  | _ => exact absurd member absent

/-- A card that is new was made by the roll. -/
theorem made (effect : Effect now context board evaluator after names) {name : String}
    (there : after.registry.contains name = true) :
    board.registry.contains name = true ∨ evaluator.made? = some name := by
  cases effect with
  | @card aim before written changed aimed kept told =>
      rw [Registry.contains_register] at there
      rcases there with named | old
      · rw [told.name, board.registry.named aim before kept] at named
        have stands : board.registry.get? name ≠ none := by
          rw [← named, kept]
          exact Option.some_ne_none before
        exact .inl ((Registry.contains_iff name).2 stands)
      · exact .inl old
  | @make kind new made =>
      rw [Registry.contains_link, Registry.contains_register, Card.new_name] at there
      rcases there with named | old
      · exact .inr (made.trans (congrArg some named))
      · exact .inl old
  | delete deleted => exact .inl (Registry.contains_unregister.1 there).2
  | link card given =>
      rw [Registry.contains_link] at there
      exact .inl there
  | _ => exact .inl there

/-- A card that is gone was deleted by the roll. -/
theorem deleted (effect : Effect now context board evaluator after names) {name : String}
    (gone : after.registry.contains name = false) :
    board.registry.contains name = false ∨ evaluator.deleted? = some name := by
  rw [← Bool.not_eq_true] at gone ⊢
  by_contra neither
  obtain ⟨there, kept⟩ := not_or.1 neither
  rw [not_not] at there
  apply gone
  cases effect with
  | card aimed kept told => exact Registry.contains_register.2 (.inr there)
  | make made =>
      rw [Registry.contains_link]
      exact Registry.contains_register.2 (.inr there)
  | @delete gone deleted =>
      refine Registry.contains_unregister.2 ⟨?_, there⟩
      rintro rfl
      exact kept deleted
  | link card given =>
      rw [Registry.contains_link]
      exact there
  | _ => exact there

end Effect

end Evaluator

/-! Interleavings -/

/-- Applying the roll gives its sender this link. -/
def Roll.Gives (roll : Roll) (link : Link) : Prop :=
  roll.evaluator.given? = some link.card ∧ roll.context.channel = link.channel ∧
    roll.context.user = link.user

namespace Engine

/-- What an engine goes through between two moments: it answers commands and applies rolls in any order.
The list has the rolls that were applied. -/
inductive Steps (first : Engine) : List Roll → Engine → Prop where
  | start : Steps first [] first
  | answers {rolls : List Roll} {engine next : Engine} (before : Steps first rolls engine)
      (answered : Answers engine next) : Steps first rolls next
  | apply {rolls : List Roll} {engine : Engine} {now : Instant} {roll : Roll} {applied : Applied}
      (before : Steps first rolls engine) (done : engine.apply now roll = .ok applied) :
      Steps first (rolls ++ [roll]) applied.engine

/-- What a step of applying a roll does to the registry. -/
theorem apply_effect {engine : Engine} {now : Instant} {roll : Roll} {applied : Applied}
    (done : engine.apply now roll = .ok applied) :
    ∃ board names,
      Evaluator.Effect now roll.context engine.board roll.evaluator board names ∧
      applied.engine.board.registry = board.registry.withoutChanges := by
  obtain ⟨board, names, applies, settled, _⟩ := apply_ok done
  refine ⟨board, names, Evaluator.apply_effect (Roll.apply_ok applies).2.1, ?_⟩
  rw [settled]
  rfl

namespace Steps

variable {first last : Engine} {rolls : List Roll}

theorem linksUnique (steps : Steps first rolls last) (unique : first.board.registry.links.Unique) :
    last.board.registry.links.Unique := by
  induction steps with
  | start => exact unique
  | answers before answered inductionHypothesis =>
      rw [answered.records.board]
      exact inductionHypothesis
  | apply before done inductionHypothesis =>
      obtain ⟨board, names, effect, same⟩ := apply_effect done
      rw [same, Registry.links_withoutChanges]
      exact effect.linksUnique inductionHypothesis

/-- What holds of the registry at the end held at the start, or a roll brought it about on the way. The
induction is on what happened before the last step. -/
theorem cause (holds : Registry → Prop) {brings : Roll → Prop}
    (step : ∀ engine now roll applied, Engine.apply engine now roll = .ok applied →
      holds applied.engine.board.registry → holds engine.board.registry ∨ brings roll)
    (steps : Steps first rolls last) (held : holds last.board.registry) :
    holds first.board.registry ∨ ∃ roll ∈ rolls, brings roll := by
  induction steps with
  | start => exact .inl held
  | answers before answered inductionHypothesis =>
      rw [answered.records.board] at held
      exact inductionHypothesis held
  | @apply rolls engine now roll applied before done inductionHypothesis =>
      rcases step engine now roll applied done held with old | brought
      · rcases inductionHypothesis old with kept | ⟨other, inRolls, brought⟩
        · exact .inl kept
        · exact .inr ⟨other, List.mem_append_left _ inRolls, brought⟩
      · exact .inr ⟨roll, List.mem_append_right _ (List.mem_singleton_self roll), brought⟩

/-- A link that is new was given by a roll of its user. -/
theorem gained (steps : Steps first rolls last) {link : Link}
    (member : link ∈ last.board.registry.links) :
    link ∈ first.board.registry.links ∨ ∃ roll ∈ rolls, roll.Gives link := by
  refine steps.cause (fun registry => link ∈ registry.links) ?_ member
  intro engine now roll applied done there
  obtain ⟨board, names, effect, same⟩ := apply_effect done
  rw [same, Registry.links_withoutChanges] at there
  by_cases old : link ∈ engine.board.registry.links
  · exact .inl old
  · exact .inr (effect.gained there old)

/-- A card that is new was made by a roll. -/
theorem made (steps : Steps first rolls last) {name : String}
    (there : last.board.registry.contains name = true) :
    first.board.registry.contains name = true ∨
      ∃ roll ∈ rolls, roll.evaluator.made? = some name := by
  refine steps.cause (fun registry => registry.contains name = true) ?_ there
  intro engine now roll applied done there
  obtain ⟨board, names, effect, same⟩ := apply_effect done
  rw [same, Registry.contains_withoutChanges] at there
  exact effect.made there

/-- A card that is gone was deleted by a roll. -/
theorem deleted (steps : Steps first rolls last) {name : String}
    (gone : last.board.registry.contains name = false) :
    first.board.registry.contains name = false ∨
      ∃ roll ∈ rolls, roll.evaluator.deleted? = some name := by
  refine steps.cause (fun registry => registry.contains name = false) ?_ gone
  intro engine now roll applied done gone
  obtain ⟨board, names, effect, same⟩ := apply_effect done
  rw [same, Registry.contains_withoutChanges] at gone
  exact effect.deleted gone

end Steps

/-- An engine whose cards and links come from these calls. It judges rolls, and most of its replies are
empty. -/
def silent (calls : List RegistryCall) : Engine :=
  let keys := ["nn.link", "pc.new", "pc.del", "roll.start", "roll.result", "roll.test", "test.best",
    "roll.st.prompt", "roll.st.line"]
  let saying := saying (keys.map fun key => (key, []))
  let standard := saying.configs.standard
  let own := { standard.own with deciders := Decider.embedded }
  { saying with configs := { saying.configs with standard := { standard with own := own } } }.setRegistry
    (Registry.empty.callEach calls)

theorem silent_linksUnique (calls : List RegistryCall) : (silent calls).board.registry.links.Unique :=
  Registry.callEach_linksUnique Registry.empty_linksUnique calls

/-- Another user of the same channel. -/
def companion : Context :=
  ⟨"u2", "Bob", .user, "c1", some "m2", none⟩

/-- What happens when a roll is made and then another one is made and applied before it. -/
structure Overtaking where
  roll : Roll
  /-- The roll that is made later and applied earlier. -/
  other : Roll
  /-- The engine between the two rolls that are applied. -/
  before : Engine
  applied : Applied

/-- Handles two commands and applies the second one first. -/
def overtake (engine : Engine) (command other : Command) : Option Overtaking := do
  let dispatched ← (engine.dispatch .epoch command).toOption
  let roll ← dispatched.roll
  let overtaking ← (dispatched.engine.dispatch .epoch other).toOption
  let otherRoll ← overtaking.roll
  let before ← (overtaking.engine.apply .epoch otherRoll).toOption
  let applied ← (before.engine.apply .epoch roll).toOption
  return ⟨roll, otherRoll, before.engine, applied⟩

/-- What was handled and applied before the first roll was applied. -/
theorem overtake_ok {engine : Engine} {command other : Command} {result : Overtaking}
    (done : engine.overtake command other = some result) :
    ∃ dispatched overtaking, engine.dispatch .epoch command = .ok dispatched ∧
      dispatched.roll = some result.roll ∧
      dispatched.engine.dispatch .epoch other = .ok overtaking ∧
      overtaking.roll = some result.other ∧
      (∃ before, overtaking.engine.apply .epoch result.other = .ok before ∧
        before.engine = result.before) ∧
      result.before.apply .epoch result.roll = .ok result.applied := by
  simp only [overtake, Option.bind_eq_bind, Option.bind_eq_some_iff, toOption_eq_some,
    Option.pure_def, Option.some.injEq] at done
  obtain ⟨dispatched, handled, roll, rolled, second, handledOther, otherRoll, rolledOther, before,
    appliedOther, applied, done, rfl⟩ := done
  exact ⟨dispatched, second, handled, rolled, handledOther, rolledOther, ⟨before, appliedOther, rfl⟩, done⟩

/-- To overtake is one of the interleavings. -/
theorem overtake_steps {engine : Engine} {command other : Command} {result : Overtaking}
    (done : engine.overtake command other = some result) :
    ∃ dispatched, engine.dispatch .epoch command = .ok dispatched ∧
      dispatched.roll = some result.roll ∧
      Steps dispatched.engine [result.other] result.before ∧
      result.before.apply .epoch result.roll = .ok result.applied := by
  obtain ⟨dispatched, second, handled, rolled, handledOther, _, ⟨before, appliedOther, same⟩, done⟩ :=
    overtake_ok done
  have answered : Answers dispatched.engine second.engine := .command .start handledOther
  exact ⟨dispatched, handled, rolled, same ▸ .apply (.answers .start answered) appliedOther, done⟩

end Engine

end Tabletop
