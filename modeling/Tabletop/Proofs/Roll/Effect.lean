/-
This file proves what rolls can do to the board when they are applied.

A roll changes at most one card, and it names the card whenever the stored content changed.
-/

import Tabletop.Proofs.Card.Registry
import Tabletop.Proofs.Card.Setters
import Tabletop.Roll

namespace Tabletop

/-! Changes of cards -/

/-- Marks that are set one after the other tell whether one is new. -/
theorem GrowthRoll.setMarks_tells (now : Instant) (keys : List String) (card : Card) :
    card.Tells (setMarks now keys card).1 (setMarks now keys card).2 := by
  apply List.foldlRecOn (motive := fun (result : Card × Bool) => card.Tells result.1 result.2)
  · exact .still card
  · intro result told key _
    exact told.trans (.ofReports (result.1.markGrowth_reports now key))

theorem GrowthRoll.writeGains_tells {now : Instant} {checks : List GrowthCheck} {before after : Card}
    {changed : Bool} (done : writeGains now checks before = .ok (after, changed)) :
    before.Tells after changed := by
  refine foldlM_keeps (fun result => before.Tells result.1 result.2) ?_ (.still before) done
  intro result check next told written
  dsimp only at written
  split at written
  · obtain ⟨entry, set, same⟩ := bind_eq_ok.1 written
    cases same
    exact told.trans (.ofReports (Card.setEntry_reports set))
  · cases written
    exact told

theorem GrowthRoll.settleChecks_tells {now : Instant} {checks : List GrowthCheck}
    {before after : Card} {changed : Bool}
    (done : settleChecks now checks before = .ok (after, changed)) : before.Tells after changed := by
  obtain ⟨⟨middle, written⟩, gains, rest⟩ := bind_eq_ok.1 done
  have told := writeGains_tells gains
  dsimp only at rest
  split at rest
  · cases rest
    exact told
  · cases rest
    exact told.trans (.ofReports (middle.clearGrowth_reports now _))

theorem EditRoll.writeAll_tells {now : Instant} {writes : List EntryWrite} {before after : Card}
    {changed : Bool} (done : writeAll now writes before = .ok (after, changed)) :
    before.Tells after changed := by
  refine foldlM_keeps (fun result => before.Tells result.1 result.2) ?_ (.still before) done
  intro result write next told written
  obtain ⟨entry, set, same⟩ := bind_eq_ok.1 written
  cases same
  exact told.trans (.ofReports (Card.setEntry_reports set))

/-- A death save always tells of a change, also if there is none. -/
theorem DeathRoll.settle_tells (now : Instant) (saving : DeathSaving) (outcome : DeathSave)
    (card : DndCard) : (Card.dnd card).Tells (.dnd (settle now saving outcome card)) true where
  name := by
    have saved : (card.setDeathSaving now saving).core.name = card.core.name := by
      unfold DndCard.setDeathSaving
      split <;> rfl
    unfold settle
    split
    · obtain ⟨_, told⟩ := (card.setDeathSaving now saving).put_reports now .basic DndCard.hitPoints _
      exact told.name.trans saved
    · exact saved
  quiet told := by cases told

/-! Changes of the board -/

/-- A card is changed under its own name, if there is such a card. -/
theorem Board.changeCard_ok {board after : Board} {name : String}
    {change : Card → Except Fault (Card × Bool)} {names : List String}
    (tells : ∀ before card changed, change before = .ok (card, changed) → before.Tells card changed)
    (done : board.changeCard name change = .ok (after, names)) :
    (after = board ∧ names = []) ∨
      ∃ before card changed, board.registry.get? name = some before ∧ before.Tells card changed ∧
        after = { board with registry := board.registry.register card } ∧
        names = if changed then [name] else [] := by
  unfold changeCard at done
  split at done
  · cases done
    exact .inl ⟨rfl, rfl⟩
  · next before kept =>
    obtain ⟨⟨card, changed⟩, written, same⟩ := bind_eq_ok.1 done
    have told := tells before card changed written
    cases same
    exact .inr ⟨before, card, changed, kept, told,
      by rw [Registry.update_eq_register kept told.name], rfl⟩

/-- A card that is there is changed if the change does not fail. -/
theorem Board.changeCard_of_ok {board : Board} {name : String} {before after : Card} {changed : Bool}
    {change : Card → Except Fault (Card × Bool)} (kept : board.registry.get? name = some before)
    (written : change before = .ok (after, changed)) (named : after.name = before.name) :
    board.changeCard name change =
      .ok ({ board with registry := board.registry.register after },
        if changed then [name] else []) := by
  unfold changeCard
  rw [kept]
  dsimp only
  rw [written, ← Registry.update_eq_register kept named]
  rfl

namespace Evaluator

/-- The name of the card that a roll writes to when it is applied. -/
def card? (context : Context) (board : Board) : Evaluator → Option String
  | .standard _ => board.registry.linkedName? context.channel context.user
  | .opposed _ => board.registry.linkedName? context.channel context.user
  | .sanity roll => roll.card
  | .growth roll => roll.card
  | .edit roll => roll.card
  | .deathSave roll => roll.card
  | _ => none

/-- The name of the card that a roll makes when it is applied. -/
def made? : Evaluator → Option String
  | .admin ⟨.make _ _, target, _⟩ => target
  | _ => none

/-- The name of the card to which a roll links its sender when it is applied. -/
def given? : Evaluator → Option String
  | .link ⟨.give _, target, _⟩ => target
  | evaluator => evaluator.made?

/-- The name of the card that a roll deletes when it is applied. -/
def deleted? : Evaluator → Option String
  | .admin ⟨.delete _, target, _⟩ => target
  | _ => none

/-- All that applying a roll can do to a board, with the names of the changed cards. -/
inductive Effect (now : Instant) (context : Context) (board : Board) (evaluator : Evaluator) :
    Board → List String → Prop where
  | idle : Effect now context board evaluator board []
  | card {name : String} {before after : Card} {changed : Bool}
      (aimed : evaluator.card? context board = some name)
      (kept : board.registry.get? name = some before)
      (told : before.Tells after changed) :
      Effect now context board evaluator
        { board with registry := board.registry.register after } (if changed then [name] else [])
  | initiative {initiative : Initiative}
      (others : ∀ channel, channel ≠ context.channel →
        initiative[channel]? = board.initiative[channel]?) :
      Effect now context board evaluator { board with initiative := initiative } []
  | link (card : Option String) (given : evaluator.given? = card) :
      Effect now context board evaluator
        { board with registry := board.registry.link context.channel context.user card } []
  | make {kind : CardKind} {name : String} (made : evaluator.made? = some name) :
      Effect now context board evaluator
        { board with registry := ((board.registry.register (.new kind name now)).link
            context.channel context.user (some name)) } [name]
  | delete {name : String} (deleted : evaluator.deleted? = some name) :
      Effect now context board evaluator
        { board with registry := board.registry.unregister name } []

namespace Effect

variable {now : Instant} {context : Context} {board after : Board} {names : List String}

/-- A change of the card that a roll writes to. -/
theorem ofChange {evaluator : Evaluator} {name : String}
    {change : Card → Except Fault (Card × Bool)}
    (aimed : evaluator.card? context board = some name)
    (tells : ∀ before card changed, change before = .ok (card, changed) → before.Tells card changed)
    (done : board.changeCard name change = .ok (after, names)) :
    Effect now context board evaluator after names := by
  rcases Board.changeCard_ok tells done with ⟨rfl, rfl⟩ | ⟨before, card, changed, kept, told, rfl, rfl⟩
  · exact .idle
  · exact .card aimed kept told

theorem ofStandard {evaluator : Evaluator} {roll : StandardRoll}
    (aimed : evaluator.card? context board =
      board.registry.linkedName? context.channel context.user)
    (done : roll.apply now context board = .ok (after, names)) :
    Effect now context board evaluator after names := by
  unfold StandardRoll.apply at done
  split at done
  · cases done
    exact .idle
  · next held =>
    refine ofChange (aimed.trans held) ?_ done
    intro before card changed marked
    exact .ofOk (GrowthRoll.setMarks_tells now roll.growth before) marked

theorem ofSanity {roll : SanityRoll} (done : roll.apply now board = .ok (after, names)) :
    Effect now context board (.sanity roll) after names := by
  unfold SanityRoll.apply at done
  split at done
  · next named _ => exact ofChange named (fun _ _ _ set => .ofReports (Card.setEntry_reports set)) done
  · cases done
    exact .idle

theorem ofGrowth {roll : GrowthRoll} (done : roll.apply now board = .ok (after, names)) :
    Effect now context board (.growth roll) after names := by
  unfold GrowthRoll.apply at done
  split at done
  · cases done
    exact .idle
  · next named =>
    refine ofChange named ?_ done
    intro before card changed written
    split at written
    · exact GrowthRoll.settleChecks_tells written
    · exact GrowthRoll.settleChecks_tells written
    · exact .ofOk (GrowthRoll.setMarks_tells now roll.keys before) written
    · exact .ofOk (.ofReports (before.clearGrowth_reports now roll.keys)) written
    · cases written
      exact .still _

theorem ofEdit {roll : EditRoll} (done : roll.apply now board = .ok (after, names)) :
    Effect now context board (.edit roll) after names := by
  unfold EditRoll.apply at done
  split at done
  · next named _ =>
    refine ofChange named ?_ done
    intro before card changed written
    split at written
    · cases written
      exact .still _
    · exact .ofOk (.ofReports (before.setAbility_reports now _ _)) written
    · exact EditRoll.writeAll_tells written
  · cases done
    exact .idle

theorem ofDeath {roll : DeathRoll} (done : roll.apply now board = .ok (after, names)) :
    Effect now context board (.deathSave roll) after names := by
  unfold DeathRoll.apply at done
  split at done
  · next named _ =>
    refine ofChange named ?_ done
    intro before card changed written
    split at written
    · cases written
      exact DeathRoll.settle_tells now _ _ _
    · cases written
      exact .still _
  · cases done
    exact .idle

theorem ofAdmin (roll : AdminRoll) :
    Effect now context board (.admin roll) (roll.apply now context board).1
      (roll.apply now context board).2 := by
  rcases roll with ⟨action, target, output⟩
  cases action with
  | list => exact .idle
  | make kind name =>
      cases target with
      | none => exact .idle
      | some name => exact .make rfl
  | delete name =>
      cases target with
      | none => exact .idle
      | some name => exact .delete rfl

/-- Putting contenders on the list of a channel changes this list alone. -/
theorem ofInitiative (roll : InitiativeRoll) :
    Effect now context board (.initiative roll) (roll.apply context board) [] := by
  apply Effect.initiative
  intro channel other
  apply List.foldlRecOn (motive := fun (initiative : Initiative) =>
    initiative[channel]? = board.initiative[channel]?)
  · rfl
  · intro initiative same contender _
    rw [Initiative.upsert, Table.get_insert, if_neg other.symm, same]

theorem ofInitiativeList (roll : InitiativeListRoll) :
    Effect now context board (.initiativeList roll) (roll.apply context board) [] := by
  unfold InitiativeListRoll.apply
  split
  · exact .idle
  · apply Effect.initiative
    intro channel other
    rw [Initiative.clear, Table.get_erase, if_neg other.symm]
  · apply Effect.initiative
    intro channel other
    unfold Initiative.remove
    split
    · rfl
    · rw [Table.get_insert, if_neg other.symm]

theorem ofLink (roll : LinkRoll) :
    Effect now context board (.link roll) (roll.apply context board) [] := by
  rcases roll with ⟨action, target, output⟩
  cases action with
  | view => exact .idle
  | clear => exact .link none rfl
  | give keyword =>
      cases target with
      | none => exact .idle
      | some name => exact .link (some name) rfl

end Effect

/-- Applying a roll does no more than this to the board. -/
theorem apply_effect {evaluator : Evaluator} {now : Instant} {context : Context}
    {board after : Board} {names : List String}
    (done : evaluator.apply now context board = .ok (after, names)) :
    Effect now context board evaluator after names := by
  cases evaluator with
  | standard roll => exact .ofStandard rfl done
  | opposed roll => exact .ofStandard rfl done
  | sanity roll => exact .ofSanity done
  | growth roll => exact .ofGrowth done
  | edit roll => exact .ofEdit done
  | deathSave roll => exact .ofDeath done
  | initiative roll =>
      cases done
      exact .ofInitiative roll
  | initiativeList roll =>
      cases done
      exact .ofInitiativeList roll
  | link roll =>
      cases done
      exact .ofLink roll
  | admin roll =>
      have effect : Effect now context board (.admin roll) _ _ := .ofAdmin roll
      rwa [Except.ok.inj done] at effect

/-- Every card that is new or has another stored content is named. -/
theorem Effect.names_changed {evaluator : Evaluator} {now : Instant} {context : Context}
    {board after : Board} {names : List String}
    (effect : Effect now context board evaluator after names) {name : String} {card : Card}
    (stands : after.registry.get? name = some card)
    (other : ∀ before, board.registry.get? name = some before → before.content ≠ card.content) :
    name ∈ names := by
  have moved : board.registry.get? name ≠ some card := fun kept => other card kept rfl
  cases effect with
  | idle => exact absurd stands moved
  | initiative others => exact absurd stands moved
  | link card => exact absurd (by simpa using stands) moved
  | @card aim before written changed aimed kept told =>
      rw [Registry.get?_register] at stands
      split at stands
      · next named =>
        have same : aim = name := by
          rw [← board.registry.named aim before kept, ← told.name, named]
        subst same
        cases stands
        cases changed with
        | true => simp
        | false => exact absurd (told.quiet rfl).symm (other before kept)
      · exact absurd stands moved
  | @make kind new made =>
      simp only [Registry.get?_link, Registry.get?_register, Card.new_name] at stands
      split at stands
      · next named => simp [named]
      · exact absurd stands moved
  | @delete gone deleted =>
      rw [Registry.get?_unregister] at stands
      split at stands
      · cases stands
      · exact absurd stands moved

/-- A card stays the same, unless it is written to, made or deleted. -/
theorem Effect.cards {evaluator : Evaluator} {now : Instant} {context : Context}
    {board after : Board} {names : List String}
    (effect : Effect now context board evaluator after names) {name : String}
    (unwritten : evaluator.card? context board ≠ some name) (unmade : evaluator.made? ≠ some name)
    (kept : evaluator.deleted? ≠ some name) :
    after.registry.get? name = board.registry.get? name := by
  cases effect with
  | idle => rfl
  | initiative others => rfl
  | link card => exact Registry.get?_link _ _ _ _
  | @card aim before written changed aimed found told =>
      have other : written.name ≠ name := by
        intro named
        rw [told.name, board.registry.named aim before found] at named
        exact unwritten (named ▸ aimed)
      rw [Registry.get?_register, if_neg other]
  | @make kind new made =>
      have other : new ≠ name := fun named => unmade (named ▸ made)
      rw [Registry.get?_link, Registry.get?_register, Card.new_name, if_neg other]
  | @delete gone deleted =>
      have other : gone ≠ name := fun named => kept (named ▸ deleted)
      rw [Registry.get?_unregister, if_neg other]

/-- The card that a roll makes is new. -/
theorem apply_makes {evaluator : Evaluator} {now : Instant} {context : Context}
    {board after : Board} {names : List String} {name : String}
    (done : evaluator.apply now context board = .ok (after, names))
    (made : evaluator.made? = some name) : ∃ kind, after.registry.get? name = some (.new kind name now) := by
  unfold made? at made
  split at made
  · next kind _ _ _ =>
    subst made
    cases done
    refine ⟨kind, ?_⟩
    rw [Registry.get?_link, Registry.get?_register, Card.new_name, if_pos rfl]
  · cases made

theorem apply_deleted {evaluator : Evaluator} {now : Instant} {context : Context}
    {board after : Board} {names : List String} {name : String}
    (done : evaluator.apply now context board = .ok (after, names))
    (deleted : evaluator.deleted? = some name) : after.registry.get? name = none := by
  unfold deleted? at deleted
  split at deleted
  · cases deleted
    cases done
    rw [Registry.get?_unregister, if_pos rfl]
  · cases deleted

end Evaluator

end Tabletop
