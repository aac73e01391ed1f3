/-
This file proves how far a roll can stray from what was checked when it was made.

Who may take a card, whether a name is free and which card is tested is looked up when a command is
handled. Rolls that are applied before the one of the command can change the answers, and nothing else
can. A roll that gives, makes or deletes a card, and one that marks skills, does not look again.
-/

import Tabletop.Proofs.Engine.Deletion
import Tabletop.Proofs.Engine.Dispatch
import Tabletop.Proofs.Engine.Interleaving
import Tabletop.Proofs.Engine.Isolation

namespace Tabletop

open Step

theorem Registry.contains_of_search {registry : Registry} {keyword name : String}
    (found : name ∈ registry.search keyword) : registry.contains name = true := by
  unfold search at found
  split at found
  · next there =>
    rw [List.mem_singleton.1 found]
    exact there
  · have key := (List.mem_filter.1 found).1
    rw [names, Std.ExtTreeMap.mem_keys] at key
    rw [contains, Std.ExtTreeMap.contains_iff_mem]
    exact key

namespace LinkRoll

/-- A card that the sender is to get is registered, and the sender may take it. -/
def Permitted (scene : Scene) (roll : LinkRoll) : Prop :=
  ∀ name, roll.target = some name →
    scene.board.registry.contains name = true ∧ scene.mayTake name = true

theorem reply_permitted (scene : Scene) (text : StateM Faces String) :
    Keeps (Permitted scene) (reply text) :=
  (keeps_draw _).bind fun _ => keeps_modify fun _ permitted => permitted

theorem choose_permitted (scene : Scene) (keyword : String) {names : List String}
    (registered : ∀ name ∈ names, scene.board.registry.contains name = true) :
    Keeps (Permitted scene) (choose scene keyword names) := by
  unfold choose
  split
  · exact reply_permitted scene _
  · next found =>
    split
    · next may =>
      refine Keeps.bind (keeps_modify fun roll _ => ?_) fun _ => reply_permitted scene _
      intro name target
      cases target
      exact ⟨registered _ (List.mem_singleton_self _), may⟩
    · exact reply_permitted scene _
  · exact reply_permitted scene _

theorem roll_permitted (scene : Scene) : Keeps (Permitted scene) (roll scene) := by
  unfold roll
  refine keeps_get fun roll permitted => ?_
  split
  · exact reply_permitted scene _
  · exact reply_permitted scene _
  · exact choose_permitted scene _ fun name found => Registry.contains_of_search found

end LinkRoll

namespace Evaluator

variable {now : Instant} {context : Context} {board after : Board} {names : List String}
  {evaluator : Evaluator} {name : String}

theorem deleted?_of_given (given : evaluator.given? = some name) : evaluator.deleted? = none := by
  cases evaluator with
  | admin roll =>
      rcases roll with ⟨action, target, output⟩
      cases action with
      | make kind asked => rfl
      | _ => cases given
  | _ => rfl

/-- Links go if their card is deleted, if the sender gets another card, and if another user held the
card that the sender gets. -/
theorem Effect.lost (effect : Effect now context board evaluator after names) {link : Link}
    (member : link ∈ board.registry.links) (gone : link ∉ after.registry.links) :
    evaluator.deleted? = some link.card ∨
      link.channel = context.channel ∧
        (link.user = context.user ∨ evaluator.given? = some link.card) := by
  have of_give {name : String} (given : evaluator.given? = some name)
      (taken : link ∉ board.registry.links.give context.channel context.user name) :
      link.channel = context.channel ∧
        (link.user = context.user ∨ evaluator.given? = some link.card) := by
    rw [Links.mem_give, not_or, not_and, not_not] at taken
    refine (taken.1 member).imp_right (Or.imp_right fun same => ?_)
    rw [given, same]
  cases effect with
  | link card given =>
      cases card with
      | none =>
          have taken : link ∉ board.registry.links.take context.channel context.user := gone
          rw [Links.mem_take, not_and, not_not] at taken
          exact .inr ((taken member).imp_right Or.inl)
      | some card => exact .inr (of_give given gone)
  | make made => exact .inr (of_give (given?_of_made made) gone)
  | @delete dropped deleted =>
      left
      by_contra other
      apply gone
      change link ∈ (board.registry.unregister dropped).links
      unfold Registry.unregister
      split
      · rw [Links.forget, List.mem_filter, bne_iff_ne]
        refine ⟨member, fun same => other ?_⟩
        rw [deleted, same]
      · exact member
  | _ => exact absurd member gone

theorem made?_of_link (linking : evaluator.kind = .link) : evaluator.made? = none := by
  cases evaluator with
  | link roll => rfl
  | _ => cases linking

theorem deleted?_of_link (linking : evaluator.kind = .link) : evaluator.deleted? = none := by
  cases evaluator with
  | link roll => rfl
  | _ => cases linking

/-- Commands for links and cards never fail when they are applied. -/
theorem apply_total (kind : evaluator.kind = .link ∨ evaluator.kind = .admin) (now : Instant)
    (context : Context) (board : Board) :
    ∃ after names, evaluator.apply now context board = .ok (after, names) := by
  cases evaluator with
  | link roll => exact ⟨_, _, rfl⟩
  | admin roll => exact ⟨_, _, rfl⟩
  | _ => rcases kind with kind | kind <;> cases kind

theorem apply_given (done : evaluator.apply now context board = .ok (after, names))
    (given : evaluator.given? = some name) :
    ⟨context.channel, context.user, name⟩ ∈ after.registry.links := by
  cases evaluator with
  | link roll =>
      rcases roll with ⟨action, target, output⟩
      cases action with
      | give keyword =>
          change target = some name at given
          subst given
          cases done
          exact Links.mem_give.2 (.inr rfl)
      | _ => cases given
  | admin roll =>
      rcases roll with ⟨action, target, output⟩
      cases action with
      | make kind asked =>
          change target = some name at given
          subst given
          cases done
          exact Links.mem_give.2 (.inr rfl)
      | _ => cases given
  | _ => cases given

theorem apply_made (done : evaluator.apply now context board = .ok (after, names))
    (made : evaluator.made? = some name) : after.registry.contains name = true := by
  obtain ⟨kind, new⟩ := apply_makes done made
  rw [Registry.contains_iff, new]
  exact Option.some_ne_none _

end Evaluator

namespace Engine

variable {first last : Engine} {now later : Instant} {command : Command} {dispatched : Dispatched}
  {roll : Roll} {between : List Roll} {name : String}

/-- A card that is given is registered, and the sender may take it, unless it is to be made. -/
theorem dispatch_gives (handled : first.dispatch now command = .ok dispatched)
    (rolled : dispatched.roll = some roll) (given : roll.evaluator.given? = some name) :
    (first.board.registry.contains name = true ∧
        (first.scene (first.received command).context).mayTake name = true) ∨
      roll.evaluator.made? = some name := by
  obtain ⟨start, faces, rest, fresh, ran⟩ := dispatch_evaluation handled rolled
  cases evaluator : roll.evaluator with
  | link link =>
      rw [evaluator] at given ran
      cases fresh with
      | link source =>
          unfold Evaluator.roll at ran
          obtain ⟨inner, made, same⟩ := Evaluator.take_ok ran
          cases same
          have permitted : LinkRoll.Permitted _ link :=
            (LinkRoll.roll_permitted _).after (by rintro name ⟨⟩) made
          rcases link with ⟨action, target, output⟩
          cases action with
          | give keyword => exact .inl (permitted name given)
          | _ => cases given
      | _ =>
          unfold Evaluator.roll at ran
          obtain ⟨_, _, same⟩ := Evaluator.take_ok ran
          cases same
  | admin admin =>
      rw [evaluator] at given
      exact .inr given
  | _ =>
      rw [evaluator] at given
      cases given

/-- A name that is to be given to a new card is free. -/
theorem dispatch_makes (handled : first.dispatch now command = .ok dispatched)
    (rolled : dispatched.roll = some roll) (made : roll.evaluator.made? = some name) :
    first.board.registry.contains name = false :=
  Registry.contains_eq_false.2 ((dispatch_made handled rolled).2.2.made made)

/-! Since the roll was made -/

/-- Another user who holds the card that the sender is to get got it on the way. -/
theorem held_since (unique : first.board.registry.links.Unique)
    (handled : first.dispatch now command = .ok dispatched) (rolled : dispatched.roll = some roll)
    (linking : roll.evaluator.kind = .link) (plain : roll.context.isAdmin = false)
    (steps : Steps dispatched.engine between last) {link : Link}
    (member : link ∈ last.board.registry.links) (given : roll.evaluator.given? = some link.card)
    (channel : link.channel = roll.context.channel) (foreign : link.user ≠ roll.context.user) :
    ∃ other ∈ between, other.Gives link := by
  refine (steps.gained member).resolve_left fun old => ?_
  obtain ⟨_, context, _⟩ := dispatch_made handled rolled
  rw [(dispatch_records handled).board] at old
  rw [context] at plain channel foreign
  rcases dispatch_gives handled rolled given with ⟨_, may⟩ | made
  · exact foreign ((first.scene (first.received command).context).mayTake_holder unique plain may old
      channel)
  · rw [Evaluator.made?_of_link linking] at made
    cases made

/-- A card whose name is to be given to a new one was made on the way. -/
theorem made_since (handled : first.dispatch now command = .ok dispatched)
    (rolled : dispatched.roll = some roll) (steps : Steps dispatched.engine between last)
    (made : roll.evaluator.made? = some name) (there : last.board.registry.contains name = true) :
    ∃ other ∈ between, other.evaluator.made? = some name := by
  refine (steps.made there).resolve_left fun old => ?_
  rw [(dispatch_records handled).board, dispatch_makes handled rolled made] at old
  cases old

/-- A card that is missing when the sender is to get it was deleted on the way. -/
theorem deleted_since (handled : first.dispatch now command = .ok dispatched)
    (rolled : dispatched.roll = some roll) (steps : Steps dispatched.engine between last)
    (given : roll.evaluator.given? = some name) (unmade : roll.evaluator.made? ≠ some name)
    (gone : last.board.registry.contains name = false) :
    ∃ other ∈ between, other.evaluator.deleted? = some name := by
  refine (steps.deleted gone).resolve_left fun missing => ?_
  obtain ⟨there, _⟩ := (dispatch_gives handled rolled given).resolve_right unmade
  rw [(dispatch_records handled).board, there] at missing
  cases missing

/-- What applying a roll does to the cards and links if other rolls were applied since it was made. The
new link, the new card and the deleted card are those that were planned. Where they break what was
checked when the roll was made, one of the other rolls is the reason. -/
structure Overtaken (roll : Roll) (between : List Roll) (before after : Registry) : Prop where
  gained : ∀ link ∈ after.links, link ∉ before.links → roll.Gives link
  given : ∀ link, roll.Gives link → link ∈ after.links
  made : ∀ name, roll.evaluator.made? = some name → after.contains name = true
  deleted : ∀ name, roll.evaluator.deleted? = some name → after.contains name = false
  /-- Who is no admin takes a card from another user only if that user got it in between. -/
  taken : roll.evaluator.kind = .link → roll.context.isAdmin = false → ∀ link ∈ before.links,
    link ∉ after.links → link.user ≠ roll.context.user → ∃ other ∈ between, other.Gives link
  /-- A new card replaces another one only if that one was made in between. -/
  replaced : ∀ name, roll.evaluator.made? = some name → before.contains name = true →
    ∃ other ∈ between, other.evaluator.made? = some name
  /-- A card that is given is missing only if it was deleted in between. -/
  dangling : ∀ link, roll.Gives link → after.contains link.card = false →
    ∃ other ∈ between, other.evaluator.deleted? = some link.card

end Engine

end Tabletop
