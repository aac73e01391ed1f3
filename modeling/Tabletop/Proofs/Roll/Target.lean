/-
This file proves which cards rolls aim at when they are made.

Rolls that write to a card name the one that the sender holds. A new card has a name that is free.
-/

import Tabletop.Engine
import Tabletop.Proofs.Step

namespace Tabletop

open Step

namespace Scene

/-- The name of the card that the sender holds is the name under which it is registered. -/
theorem card_name (scene : Scene) : scene.card?.map Card.name = scene.cardName? := by
  unfold card? cardName? Registry.linkedCard? Registry.linkedName?
  cases scene.board.registry.links.cardOf? scene.context.channel scene.context.user with
  | none => rfl
  | some name =>
      rw [Option.bind_some, Option.filter_some, Registry.contains, Registry.get?,
        Std.ExtTreeMap.contains_eq_isSome_getElem?]
      cases kept : scene.board.registry.cards[name]? with
      | none => rfl
      | some card => simp [scene.board.registry.named name card kept]

/-- If a card is named, it is the one that the sender holds. -/
def NamesHeld (scene : Scene) (card : Option String) : Prop :=
  ∀ name, card = some name → scene.cardName? = some name

/-- The card that the sender holds is registered under its name. -/
theorem get?_of_card {scene : Scene} {card : Card} (held : scene.card? = some card) :
    scene.board.registry.get? card.name = some card := by
  obtain ⟨name, _, kept⟩ := Option.bind_eq_some_iff.1 held
  rwa [scene.board.registry.named name card kept]

theorem NamesHeld.card?_of_kept {scene : Scene} {named : Option String} (names : scene.NamesHeld named)
    {name : String} (held : named = some name) {card : Card} (kept : scene.board.registry.get? name = some card) :
    scene.card? = some card := by
  have there := names name held
  rw [← card_name] at there
  obtain ⟨other, stands, rfl⟩ := Option.map_eq_some_iff.1 there
  rw [stands, ← Option.some.inj ((get?_of_card stands).symm.trans kept)]

theorem namesHeld_none (scene : Scene) : scene.NamesHeld none := by
  intro name named
  cases named

theorem namesHeld_card {scene : Scene} {card : Card} (held : scene.card? = some card) :
    scene.NamesHeld (some card.name) := by
  intro name named
  rw [← card_name, held, ← named]
  rfl

end Scene

namespace SanityRoll

/-- The check loses sanity of the card that the sender holds. -/
def Aims (scene : Scene) (roll : SanityRoll) : Prop :=
  scene.NamesHeld roll.card

theorem rollLoss_aims (scene : Scene) (command : Command) (level : Option Level) (succeeds : Bool) :
    Keeps (Aims scene) (rollLoss command level succeeds) := by
  unfold rollLoss
  split
  · exact keeps_dice _ _
  split
  · exact keeps_dice _ _
  · exact keeps_dice _ _

theorem check_aims (scene : Scene) (command : Command) (old : Int) :
    Keeps (Aims scene) (check scene command old) := by
  unfold check
  refine (keeps_dice _ _).bind fun check => ?_
  refine (rollLoss_aims scene _ _ _).bind fun loss => ?_
  exact (keeps_draw _).bind fun _ => keeps_modify fun _ held => held

theorem roll_aims (scene : Scene) : Keeps (Aims scene) (roll scene) := by
  have unsupported : Keeps (Aims scene) (do
      let shown ← scene.render "roll.sc.unsupported" scene.bindings
      modify fun roll => { roll with output := shown }) :=
    (keeps_draw _).bind fun _ => keeps_modify fun _ held => held
  have named : scene.NamesHeld (scene.card?.map Card.name) := by
    intro name named
    rw [← scene.card_name, named]
  unfold roll
  apply keeps_get
  intro record held
  split
  · exact unsupported
  dsimp only
  split
  · exact unsupported
  · exact Keeps.bind (keeps_modify fun _ _ => named) fun _ => check_aims scene _ _

end SanityRoll

namespace GrowthRoll

/-- The checks and marks are for the card that the sender holds. -/
def Aims (scene : Scene) (roll : GrowthRoll) : Prop :=
  scene.NamesHeld roll.card

theorem reply_aims (scene : Scene) (text : StateM Faces String) :
    Keeps (Aims scene) (reply text) :=
  (keeps_draw _).bind fun _ => keeps_modify fun _ held => held

theorem rollCheck_aims (scene : Scene) (card : Option Card) (name : String) (value : Option Int) :
    Keeps (Aims scene) (rollCheck card name value) := by
  unfold rollCheck
  split
  · exact keeps_pure _
  refine (keeps_dice _ _).bind fun result => ?_
  dsimp only
  split
  · exact ((keeps_dice _ _).map _).bind fun _ => keeps_modify fun _ held => held
  · exact (keeps_pure _).bind fun _ => keeps_modify fun _ held => held

theorem rollChecks_aims (scene : Scene) (skills : List (String × Option Int)) :
    Keeps (Aims scene) (rollChecks scene skills) := by
  unfold rollChecks
  refine (keeps_forM fun skill => rollCheck_aims scene _ _ _).bind fun _ => ?_
  exact keeps_get fun _ _ => reply_aims scene _

theorem chooseMarks_aims (scene : Scene) (card : Card) (key : String) (names : List String) :
    Keeps (Aims scene) (chooseMarks scene card key names) :=
  Keeps.bind (keeps_modify fun _ held => held) fun _ => reply_aims scene _

theorem roll_aims (scene : Scene) : Keeps (Aims scene) (roll scene) := by
  have named : scene.NamesHeld ((card? scene).map Card.name) := by
    intro name named
    rw [card?, Option.map_eq_some_iff] at named
    obtain ⟨card, held, rfl⟩ := named
    exact scene.namesHeld_card (Option.eq_some_of_filter_eq_some held) _ rfl
  unfold roll
  dsimp only
  refine Keeps.bind (keeps_modify fun _ _ => named) fun _ => ?_
  apply keeps_get
  intro record held
  split
  · exact rollChecks_aims scene _
  · exact reply_aims scene _
  · exact rollChecks_aims scene _
  · split
    · exact reply_aims scene _
    · exact reply_aims scene _
  · exact reply_aims scene _
  · exact chooseMarks_aims scene _ _ _
  · exact chooseMarks_aims scene _ _ _

end GrowthRoll

namespace EditRoll

section

variable {holds : EditRoll → Prop}

/-- The property is about the command and its card alone. -/
def IsSettled (holds : EditRoll → Prop) : Prop :=
  ∀ roll writes output, holds roll → holds { roll with writes := writes, output := output }

theorem reply_keeps (settled : IsSettled holds) (text : StateM Faces String) :
    Keeps holds (reply text) :=
  (keeps_draw _).bind fun output => keeps_modify fun roll held => settled roll roll.writes output held

theorem amount_keeps (value : List Char) : Keeps holds (amount value) := by
  unfold amount
  split
  · exact keeps_pure _
  · exact (keeps_dice _ _).bind fun _ => keeps_pure _

theorem write_keeps (now : Instant) (card : Card) (input : String) (value : Int) :
    Keeps holds (write now card input value) := by
  unfold write
  split
  · exact keeps_pure _
  · exact keeps_throw _

theorem preview_keeps (settled : IsSettled holds) (now : Instant) (card : Card)
    (assignment : Assignment) : Keeps holds (preview now card assignment) := by
  unfold preview
  refine (amount_keeps _).bind fun amount => ?_
  refine (write_keeps now card _ _).bind fun after => ?_
  dsimp only
  exact Keeps.bind (keeps_modify fun roll held => settled roll _ roll.output held) fun _ => keeps_pure _

theorem rollEdit_keeps (settled : IsSettled holds) (scene : Scene) (now : Instant) (card : Card)
    (edit : Option Edit) : Keeps holds (rollEdit scene now card edit) := by
  unfold rollEdit
  split
  · exact reply_keeps settled _
  · exact reply_keeps settled _
  · exact reply_keeps settled _
  · refine (keeps_foldlM fun _ _ => preview_keeps settled now _ _).bind fun _ => ?_
    exact keeps_get fun _ _ => reply_keeps settled _

end

/-- The values are for the card that the sender holds. -/
def Aims (scene : Scene) (roll : EditRoll) : Prop :=
  scene.NamesHeld roll.card

theorem roll_aims (scene : Scene) (now : Instant) : Keeps (Aims scene) (roll scene now) := by
  have settled : IsSettled (Aims scene) := fun _ _ _ held => held
  unfold roll
  split
  · exact reply_keeps settled _
  · next held =>
    refine Keeps.bind (keeps_modify fun _ _ => scene.namesHeld_card held) fun _ => ?_
    exact keeps_get fun _ _ => rollEdit_keeps settled scene now _ _

end EditRoll

namespace DeathRoll

/-- The throw is for the card that the sender holds. -/
def Aims (scene : Scene) (roll : DeathRoll) : Prop :=
  scene.NamesHeld roll.card

theorem roll_aims (scene : Scene) : Keeps (Aims scene) (roll scene) := by
  unfold roll
  split
  · next held =>
    refine (keeps_dice _ _).bind fun result => ?_
    exact (keeps_draw _).bind fun _ => keeps_set (scene.namesHeld_card held)
  · exact (keeps_draw _).bind fun _ => keeps_modify fun _ held => held

end DeathRoll

namespace AdminRoll

/-- A card that is to be made has a free name, and one that is to be deleted is there. -/
def Aims (scene : Scene) (action : AdminAction) (roll : AdminRoll) : Prop :=
  roll.action = action ∧ ∀ name, roll.target = some name →
    match action with
    | .make _ _ => scene.board.registry.contains name = false
    | .delete _ => scene.board.registry.contains name = true
    | .list => False

theorem reply_aims (scene : Scene) (action : AdminAction) (text : StateM Faces String) :
    Keeps (Aims scene action) (reply text) :=
  (keeps_draw _).bind fun _ => keeps_modify fun _ aims => aims

theorem roll_aims (scene : Scene) (action : AdminAction) :
    Keeps (Aims scene action) (roll scene) := by
  unfold roll
  apply keeps_get
  rintro record ⟨rfl, aims⟩
  split
  · next made =>
    unfold rollNew
    split
    · exact reply_aims scene _ _
    · next free =>
      refine Keeps.bind (keeps_modify fun after kept => ⟨kept.1, ?_⟩) fun _ => reply_aims scene _ _
      intro name target
      cases target
      rw [made]
      exact Bool.eq_false_iff.2 free
  · next removed =>
    unfold rollDelete
    split
    · exact reply_aims scene _ _
    split
    · exact reply_aims scene _ _
    split
    · next there _ =>
      refine Keeps.bind (keeps_modify fun after kept => ⟨kept.1, ?_⟩) fun _ => reply_aims scene _ _
      intro name target
      cases target
      rw [removed]
      simpa using there
    · exact reply_aims scene _ _
  · exact reply_aims scene _ _

end AdminRoll

namespace Evaluator

/-- A roll that names a card to write to names the one that the sender holds. A card that it makes has
a free name, and one that it deletes is there. -/
def Aims (scene : Scene) : Evaluator → Prop
  | .sanity roll => SanityRoll.Aims scene roll
  | .growth roll => GrowthRoll.Aims scene roll
  | .edit roll => EditRoll.Aims scene roll
  | .deathSave roll => DeathRoll.Aims scene roll
  | .admin roll => AdminRoll.Aims scene roll.action roll
  | _ => True

theorem take_evaluator {σ : Type} (wrap : σ → Evaluator) (step : Step σ Unit) (roll : σ)
    (faces : Faces) : (take wrap step roll faces).1.2 = wrap (step roll faces).1.2 := rfl

theorem take_ok {σ : Type} {wrap : σ → Evaluator} {step : Step σ Unit} {roll : σ}
    {after : Evaluator} {faces rest : Faces}
    (made : take wrap step roll faces = ((.ok (), after), rest)) :
    ∃ inner, step roll faces = ((.ok (), inner), rest) ∧ after = wrap inner := by
  unfold take at made
  rcases same : step roll faces with ⟨⟨result, inner⟩, left⟩
  rw [same] at made
  cases made
  exact ⟨inner, rfl, rfl⟩

theorem roll_aims {scene : Scene} {evaluator : Evaluator} (now : Instant) (faces : Faces)
    (aims : evaluator.Aims scene) : (evaluator.roll scene now faces).1.2.Aims scene := by
  cases evaluator with
  | sanity roll =>
      rw [Evaluator.roll, take_evaluator]
      exact SanityRoll.roll_aims scene roll faces aims
  | growth roll =>
      rw [Evaluator.roll, take_evaluator]
      exact GrowthRoll.roll_aims scene roll faces aims
  | edit roll =>
      rw [Evaluator.roll, take_evaluator]
      exact EditRoll.roll_aims scene now roll faces aims
  | deathSave roll =>
      rw [Evaluator.roll, take_evaluator]
      exact DeathRoll.roll_aims scene roll faces aims
  | admin roll =>
      have kept := AdminRoll.roll_aims scene roll.action roll faces aims
      rw [Evaluator.roll, take_evaluator, Aims, kept.1]
      exact kept
  | _ => trivial

end Evaluator

/-- A special command names no card before it is rolled. -/
theorem SpecialCommand.evaluator_aims {scene : Scene} {command : SpecialCommand} {rest : String}
    {text : List Char} (found : find? text = some (command, rest)) :
    (command.evaluator rest).Aims scene := by
  obtain ⟨listed, member, chosen⟩ := List.exists_of_findSome?_eq_some found
  obtain ⟨_, _, same⟩ := Option.map_eq_some_iff.1 chosen
  cases same
  have unnamed := scene.namesHeld_none
  simp only [all, List.mem_cons, List.not_mem_nil, or_false] at member
  rcases member with rfl | rfl | rfl | rfl | rfl | rfl | rfl | rfl
  · exact unnamed
  · exact unnamed
  · trivial
  · trivial
  · exact unnamed
  · exact unnamed
  · trivial
  · refine ⟨rfl, ?_⟩
    intro name target
    cases target

end Tabletop
