/-
This file proves from whom a user takes a card away by deleting it.

A user who is no admin may delete a card unless another user holds it in the channel of the command.
Deleting drops the links of all channels, so users of other channels can lose the card as well.
-/

import Tabletop.Proofs.Card.Links
import Tabletop.Proofs.Engine.Apply
import Tabletop.Proofs.Engine.Dispatch

namespace Tabletop

open Step

/-- Only an admin may take a card that another user holds in the channel. -/
theorem Scene.mayTake_holder (scene : Scene) {link : Link}
    (unique : scene.board.registry.links.Unique) (plain : scene.context.isAdmin = false)
    (may : scene.mayTake link.card = true) (held : link ∈ scene.board.registry.links)
    (here : link.channel = scene.context.channel) : link.user = scene.context.user := by
  have holder : scene.board.registry.links.holder? scene.context.channel link.card = some link.user := by
    rw [← here]
    exact unique.holder?_eq_some.2 held
  rw [mayTake, plain, holder] at may
  exact eq_of_beq may

namespace AdminRoll

/-- A card that is to be deleted is one that the sender may take. -/
def Permitted (scene : Scene) (action : AdminAction) (roll : AdminRoll) : Prop :=
  roll.action = action ∧ ∀ asked name,
    action = .delete asked → roll.target = some name → scene.mayTake name = true

theorem reply_permitted (scene : Scene) (action : AdminAction) (text : StateM Faces String) :
    Keeps (Permitted scene action) (reply text) :=
  (keeps_draw _).bind fun _ => keeps_modify fun _ permitted => permitted

/-- A card is named only after the look at its holder. -/
theorem rollDelete_permitted (scene : Scene) (action : AdminAction) (name : Option String) :
    Keeps (Permitted scene action) (rollDelete scene name) := by
  unfold rollDelete
  split
  · exact reply_permitted scene _ _
  split
  · exact reply_permitted scene _ _
  split
  · next may =>
    refine Keeps.bind (keeps_modify fun roll kept => ⟨kept.1, ?_⟩) fun _ => reply_permitted scene _ _
    intro asked name _ target
    cases target
    exact may
  · exact reply_permitted scene _ _

theorem rollNew_permitted (scene : Scene) {action : AdminAction} (name : String)
    (making : ∀ asked, action ≠ .delete asked) :
    Keeps (Permitted scene action) (rollNew scene name) := by
  unfold rollNew
  split
  · exact reply_permitted scene _ _
  · refine Keeps.bind (keeps_modify fun roll kept => ⟨kept.1, ?_⟩) fun _ => reply_permitted scene _ _
    intro asked name deleting _
    exact absurd deleting (making asked)

theorem roll_permitted (scene : Scene) (action : AdminAction) :
    Keeps (Permitted scene action) (roll scene) := by
  unfold roll
  apply keeps_get
  rintro record ⟨rfl, permitted⟩
  split
  · next made =>
    refine rollNew_permitted scene _ fun asked deleting => ?_
    rw [made] at deleting
    cases deleting
  · exact rollDelete_permitted scene _ _
  · exact reply_permitted scene _ _

end AdminRoll

/-- A command for cards names none before it is rolled. -/
theorem SpecialCommand.evaluator_admin {command : SpecialCommand} {rest : String}
    {text : List Char} {roll : AdminRoll} (found : find? text = some (command, rest))
    (admin : command.evaluator rest = .admin roll) : roll.target = none := by
  obtain ⟨listed, member, chosen⟩ := List.exists_of_findSome?_eq_some found
  obtain ⟨_, _, same⟩ := Option.map_eq_some_iff.1 chosen
  cases same
  simp only [all, List.mem_cons, List.not_mem_nil, or_false] at member
  rcases member with rfl | rfl | rfl | rfl | rfl | rfl | rfl | rfl
  · cases admin
  · cases admin
  · cases admin
  · cases admin
  · cases admin
  · cases admin
  · cases admin
  · rw [← Evaluator.admin.inj admin]
    rfl

/-- A command for cards that was made began as one. -/
theorem Evaluator.roll_admin {scene : Scene} {now : Instant} {start : Evaluator} {roll : AdminRoll}
    {faces rest : Faces} (made : start.roll scene now faces = ((.ok (), .admin roll), rest)) :
    ∃ before, start = .admin before ∧ AdminRoll.roll scene before faces = ((.ok (), roll), rest) := by
  cases start with
  | admin before =>
      unfold Evaluator.roll at made
      obtain ⟨_, rolled, same⟩ := take_ok made
      cases same
      exact ⟨before, rfl, rolled⟩
  | _ =>
      unfold Evaluator.roll at made
      obtain ⟨_, _, same⟩ := take_ok made
      cases same

theorem Evaluator.deleted?_eq_some {evaluator : Evaluator} {name : String} :
    evaluator.deleted? = some name ↔
      ∃ asked output, evaluator = .admin ⟨.delete asked, some name, output⟩ := by
  constructor
  · intro deleted
    unfold deleted? at deleted
    split at deleted
    · exact ⟨_, _, congrArg (fun target => Evaluator.admin ⟨_, target, _⟩) deleted⟩
    · cases deleted
  · rintro ⟨asked, output, rfl⟩
    rfl

namespace Registry

/-- A user of a channel deletes a card, or none. Nobody else holds the card in that channel, and no
other card and no link to another card goes. All records of changes were handed to the hooks. -/
structure DeletedBy (context : Context) (target : Option String) (before after : Registry) : Prop where
  gained : ∀ link ∈ after.links, link ∈ before.links
  lost : ∀ link ∈ before.links, link ∉ after.links →
    target = some link.card ∧ (link.channel = context.channel → link.user = context.user)
  others : ∀ link ∈ before.links, link.channel = context.channel → link.user ≠ context.user →
    link ∈ after.links ∧ after.get? link.card = (before.get? link.card).map Card.withoutChanges
  cards : ∀ name, after.get? name =
    if target = some name then none else (before.get? name).map Card.withoutChanges

variable {registry : Registry} {context : Context} {name : String}

theorem DeletedBy.none (registry : Registry) (context : Context) :
    DeletedBy context none registry registry.withoutChanges where
  gained _ member := member
  lost _ member gone := absurd member gone
  others _ member _ _ := ⟨member, get?_withoutChanges _⟩
  cards _ := get?_withoutChanges _

theorem DeletedBy.unregister (registered : registry.contains name = true)
    (own : ∀ link ∈ registry.links, link.card = name → link.channel = context.channel →
      link.user = context.user) :
    DeletedBy context (some name) registry (registry.unregister name).withoutChanges := by
  have links (link : Link) : link ∈ (registry.unregister name).withoutChanges.links ↔
      link ∈ registry.links ∧ link.card ≠ name := by
    change link ∈ (registry.unregister name).links ↔ _
    rw [links_unregister registered, Links.forget, List.mem_filter, bne_iff_ne]
  have cards (other : String) : (registry.unregister name).withoutChanges.get? other =
      if some name = some other then Option.none else (registry.get? other).map Card.withoutChanges := by
    rw [get?_withoutChanges, get?_unregister, apply_ite (Option.map Card.withoutChanges)]
    simp only [Option.some.injEq, Option.map_none]
  refine ⟨fun link member => ((links link).1 member).1, ?_, ?_, cards⟩
  · intro link member gone
    have same : link.card = name := by
      by_contra different
      exact gone ((links link).2 ⟨member, different⟩)
    exact ⟨congrArg some same.symm, own link member same⟩
  · intro link member here foreign
    have different : link.card ≠ name := fun same => foreign (own link member same here)
    have kept := cards link.card
    rw [if_neg fun same => different (Option.some.inj same).symm] at kept
    exact ⟨(links link).2 ⟨member, different⟩, kept⟩

end Registry

namespace Engine

variable {engine : Engine} {now : Instant} {command : Command} {dispatched : Dispatched} {roll : Roll}
  {asked target : Option String} {output : String}

theorem evaluator?_admin {context : Context} {text : List Char} {history : List InlineRoll}
    {start : AdminRoll} (chosen : engine.evaluator? context text history = some (.admin start)) :
    start.target = none := by
  unfold evaluator? at chosen
  split at chosen
  · next found =>
    split at chosen
    · exact SpecialCommand.evaluator_admin found (Option.some.inj chosen)
    · cases chosen
  · dsimp only at chosen
    split at chosen
    · cases chosen
    · cases chosen

/-- What stands behind a command that led to deleting a card: the sender may take the card, and it is
registered. -/
theorem dispatch_permitted (handled : engine.dispatch now command = .ok dispatched)
    (rolled : dispatched.roll = some roll)
    (deleting : roll.evaluator = .admin ⟨.delete asked, target, output⟩) {name : String}
    (aimed : target = some name) :
    (engine.scene (engine.received command).context).mayTake name = true ∧
      engine.board.registry.contains name = true := by
  obtain ⟨faces, evaluated, _⟩ := dispatch_roll handled rolled
  obtain ⟨_, _, aims⟩ := evaluate_roll evaluated
  obtain ⟨text, history, left, evaluator, _, chosen, made⟩ := evaluate_ok evaluated
  have evaluation := Roll.roll_evaluator made
  rw [deleting] at evaluation aims
  obtain ⟨start, rfl, ran⟩ := Evaluator.roll_admin evaluation
  -- The command names no card before it is rolled, so it may delete whatever it names by then.
  have unaimed := evaluator?_admin chosen
  have permitted : AdminRoll.Permitted _ start.action _ :=
    (AdminRoll.roll_permitted _ start.action).after ⟨rfl, by simp [unaimed]⟩ ran
  exact ⟨permitted.2 asked name permitted.1.symm aimed, aims.2 name aimed⟩

/-- An engine whose cards and links come from these calls. Its reply to deleting a card is empty. -/
def withCards (calls : List RegistryCall) : Engine :=
  (saying [("pc.del", [])]).setRegistry (Registry.empty.callEach calls)

theorem withCards_linksUnique (calls : List RegistryCall) :
    (withCards calls).board.registry.links.Unique :=
  Registry.callEach_linksUnique Registry.empty_linksUnique calls

/-- Two users of one channel hold a card each. -/
def twoHolders : List RegistryCall :=
  [.register (.new .coc "A" .epoch), .register (.new .coc "B" .epoch),
    .link "c1" "u1" (some "A"), .link "c1" "u2" (some "B")]

end Engine

end Tabletop
