/-
This file proves how the rolls of a standard roll and their tests come about, and which d20 makes a test a critical.

A roll in the game system with bonuses is made for each skill with its bonus. In the other ones a roll is made for
all skills together. The hooks behind the dice see all of them at once.
-/

import Tabletop.Proofs.Notation.Marking
import Tabletop.Proofs.Result
import Tabletop.Proofs.Roll.Hidden

namespace Tabletop

open Number Step

namespace StandardRoll

variable {scene : Scene} {state : RollState} {start after : StandardRoll} {faces rest : Faces}

/-! Rolls and tests -/

/-- What a skill adds to the roll that is made for it. -/
def added (skill : Skill) : Int :=
  wrap ((skill.entry.map bonus).getD 0 + skill.modifier)

/-- A roll that is made in a state, with its tests. -/
inductive Makes (scene : Scene) (state : RollState) : TestedRoll → Prop where
  | once {result : Notation.Result} {faces rest : Faces} (others : ¬(state.cardKind = .dnd ∧ state.skills ≠ []))
      (rolled : Notation.roll state.expression .random faces = (.ok result, rest)) :
      Makes scene state ⟨none, result,
        state.skills.filterMap fun skill => skill.entry.map (valueTest scene state.cardKind skill result)⟩
  | skill {skill : Skill} {result : Notation.Result} {faces rest : Faces} (dnd : state.cardKind = .dnd)
      (member : skill ∈ state.skills)
      (rolled : Notation.roll (Notation.withBonus state.expression (added skill)) .random faces =
        (.ok result, rest)) :
      Makes scene state ⟨some skill.name, result, (skill.number.map (bonusTest scene skill result)).toList⟩

/-- The roll has made some rolls in a state and is otherwise the same. -/
def MadeFrom (scene : Scene) (start roll : StandardRoll) : Prop :=
  ∃ rolls, roll = { start with state := { start.state with rolls := rolls } } ∧
    ∀ rolled ∈ rolls, Makes scene start.state rolled

theorem addRoll_made {rolled : TestedRoll} (makes : Makes scene start.state rolled) :
    Keeps (MadeFrom scene start) (addRoll rolled) := by
  refine keeps_modify fun roll held => ?_
  obtain ⟨rolls, rfl, all⟩ := held
  exact ⟨rolls ++ [rolled], rfl, List.forall_mem_append.2 ⟨all, List.forall_mem_singleton.2 makes⟩⟩

theorem rollSkill_made {skill : Skill} (dnd : start.state.cardKind = .dnd) (member : skill ∈ start.state.skills) :
    Keeps (MadeFrom scene start) (rollSkill scene start.state.expression skill) :=
  keeps_rolled fun _ _ _ rolled => addRoll_made (.skill dnd member rolled)

theorem rollOnce_made (others : ¬(start.state.cardKind = .dnd ∧ start.state.skills ≠ [])) :
    Keeps (MadeFrom scene start) (rollOnce scene start.state) :=
  keeps_rolled fun _ _ _ rolled => addRoll_made (.once others rolled)

theorem repeated_made {step : Rolling Unit} (kept : Keeps (MadeFrom scene start) step) (times : Nat) :
    Keeps (MadeFrom scene start) (repeated step times) := by
  induction times with
  | zero => exact keeps_pure _
  | succ times inductionHypothesis => exact kept.bind fun _ => inductionHypothesis

/-- The dice are rolled in the state that they find. -/
theorem rollDice_made (done : rollDice scene start faces = ((.ok (), after), rest)) : MadeFrom scene start after := by
  obtain ⟨_, _, _, modified, done⟩ := bind_ok done
  cases modified
  obtain ⟨_, _, _, looked, done⟩ := bind_ok done
  cases looked
  dsimp only at done
  have emptied : MadeFrom scene start { start with state := { start.state with rolls := [] } } :=
    ⟨[], rfl, fun _ member => absurd member List.not_mem_nil⟩
  refine Keeps.after ?_ emptied done
  split
  · next dnd =>
    exact repeated_made (keeps_forM_mem fun skill member => rollSkill_made dnd.1 member) _
  · next others => exact repeated_made (rollOnce_made others) _

/-- The rolls were made in one state. Only the hooks behind the dice can change what was made. -/
theorem roll_made (done : roll scene start faces = ((.ok (), after), rest)) :
    ∃ state rolls, (∀ rolled ∈ rolls, Makes scene state rolled) ∧ after.state =
      (scene.setup.diceRollHooks .afterDiceRoll).foldl (fun state hook => hook state) { state with rolls := rolls } := by
  obtain ⟨_, _, worked, _, _, work, written⟩ := roll_ok done
  obtain ⟨before, thrown, _, _, _, dice, hooked, _⟩ := work_ok work
  obtain ⟨rolls, rfl, all⟩ := rollDice_made dice
  refine ⟨before.state, rolls, all, ?_⟩
  exact (write_keeps (fun roll => roll.state = _) fun _ _ _ held => held).after hooked written

/-- Without hooks behind the dice the rolls are those that were made. -/
theorem roll_unhooked (done : roll scene start faces = ((.ok (), after), rest))
    (unhooked : scene.setup.diceRollHooks .afterDiceRoll = []) :
    ∀ rolled ∈ after.state.rolls, Makes scene after.state rolled := by
  obtain ⟨state, rolls, makes, same⟩ := roll_made done
  rw [unhooked, List.foldl_nil] at same
  rw [same]
  intro rolled member
  cases makes rolled member with
  | once others thrown => exact .once others thrown
  | skill dnd listed thrown => exact .skill dnd listed thrown

/-! The d20 of a test -/

/-- The decider gets the face of the first d20 of the roll, whether it counts or not. The die counts if no d20 of the
expression, to which the bonus of the skill is added, can be discarded. -/
structure DecidedByFirst (scene : Scene) (state : RollState) (rolled : TestedRoll) (test : Test)
    (first : Option Notation.Die) : Prop where
  earliest : Notation.FirstDie 20 rolled.result.dice first
  level : test.level = scene.setup.decide .dnd
    ⟨test.base, test.target, rolled.result.total, first.map fun die => (die.value : Int)⟩
  kept : ∃ skill ∈ state.skills, ∃ expr,
    Notation.parse (Notation.withBonus state.expression (added skill)).toList = .ok expr ∧
      ((∀ term ∈ expr.terms, term.sides = 20 → term.KeepsAll) → ∀ die ∈ first, die.kept = true)

theorem Makes.decidedByFirst {rolled : TestedRoll} (makes : Makes scene state rolled) (dnd : state.cardKind = .dnd)
    {test : Test} (member : test ∈ rolled.tests) : ∃ first, DecidedByFirst scene state rolled test first := by
  cases makes with
  | once others _ =>
      -- Without skills there are no tests.
      have none : state.skills = [] := by
        by_contra some
        exact others ⟨dnd, some⟩
      rw [none] at member
      exact absurd member List.not_mem_nil
  | @skill skill result faces rest _ listed made =>
      obtain ⟨number, _, rfl⟩ := Option.map_eq_some_iff.1 (Option.mem_toList.1 member)
      obtain ⟨expr, outcome, parsed, thrown, _, dice⟩ := Notation.roll_eq_ok made
      have earliest := Notation.find?_firstDie 20 result.dice
      have told : (result.firstFace? 20).map (fun face => (face : Int)) =
          (result.dice.find? (·.sides == 20)).map fun die => (die.value : Int) := by
        rw [Notation.Result.firstFace?]
        cases result.dice.find? (·.sides == 20) <;> rfl
      refine ⟨_, earliest, ?_, skill, listed, expr, parsed, fun all die found => ?_⟩
      · exact congrArg (fun face => scene.setup.decide .dnd ⟨number, number, result.total, face⟩) told
      · have kept := Notation.Expr.roll_kept (Notation.parse_legal parsed) all thrown
        rw [← dice] at kept
        rw [Option.mem_def.1 found] at earliest
        exact kept die earliest.mem.1 earliest.mem.2

/-- A scene with a card that its sender holds, with deciders and with replies that are empty. -/
def stage (card : Card) : Scene :=
  let keys := ["roll.start", "roll.result", "roll.test", "roll.dnd.line", "test.best", "test.success", "test.failure"]
  let texts := ⟨"own", "own", "", true, .ofPairs (keys.map fun key => (key, []))⟩
  let config :=
    { Config.standard .epoch with texts := [⟨.embedded "own", true⟩], own := ⟨Decider.embedded, [], [texts]⟩ }
  ⟨⟨"u1", "Maca", .user, "c1", none, none⟩, ⟨config, []⟩,
    { Board.empty with registry := (Registry.empty.register card).link "c1" "u1" (some card.name) }⟩

/-- A card with a strength of ten, which is no bonus. -/
def average : Card :=
  .dnd { DndCard.new "A" .epoch with props := .ofPairs [("力量", 10)] }

/-- What comes of rolling a command on the stage. -/
def staged (card : Card) (source : String) (faces : Array Nat) : StandardRoll :=
  (roll (stage card) (.new source []) (.cycle faces)).1.2

theorem staged_eq {card : Card} {source : String} {faces : Array Nat}
    (succeeds : (roll (stage card) (.new source []) (.cycle faces)).1.1.toOption = some ()) :
    ∃ rest, roll (stage card) (.new source []) (.cycle faces) = ((.ok (), staged card source faces), rest) :=
  ⟨_, Prod.ext (Prod.ext (toOption_eq_some.1 succeeds) rfl) rfl⟩

theorem stage_unhooked (card : Card) (kind : HookKind) : (stage card).setup.diceRollHooks kind = [] := by
  cases kind <;> rfl

end StandardRoll

end Tabletop
