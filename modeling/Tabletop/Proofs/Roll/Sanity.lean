/-
This file proves what a sanity check works out of its command, the sender's card and the dice.
-/

import Tabletop.Proofs.Notation.Maximum
import Tabletop.Proofs.Roll.Target

namespace Tabletop.SanityRoll

open Number Step

/-- The level of a check by its dice, if there is a decider. -/
def level? (scene : Scene) (old : Int) (check : Notation.Result) : Option Level :=
  scene.setup.decide .coc ⟨old, old, check.total, none⟩

/-- The check succeeds. Without a decider it does so up to the value. -/
def succeeds (scene : Scene) (old : Int) (check : Notation.Result) : Bool :=
  match level? scene old check with
  | some level => level.isSuccess
  | none => check.total ≤ old

/-- A check was made: the command was read, a value was found, the dice were rolled, and what they cost was taken
from the value. -/
structure Checked (scene : Scene) (faces : Faces) (command : Command) (check loss : Notation.Result) (old : Int)
    (roll : SanityRoll) : Prop where
  read : readCommand? roll.source.toList = some command
  value : checked? scene (command.value.bind readWord?) = some old
  isInline : roll.isInline = (command.value.bind readWord?).isSome
  card : roll.card = scene.card?.map Card.name
  rolled : ∃ between after, Notation.roll "d100" .random faces = (.ok check, between) ∧
    (∀ start, rollLoss command (level? scene old check) (succeeds scene old check) start between =
      ((.ok loss, start), after)) ∧
    roll.output =
      (text scene check loss (level? scene old check) old (max (wrap (old - loss.total)) 0) after).1
  change : roll.change = some (old, max (wrap (old - loss.total)) 0)

theorem dice_ok {ρ : Type} {written : String} {mode : Notation.Mode} {record after : ρ} {faces rest : Faces}
    {result : Notation.Result} (done : Step.dice written mode record faces = ((.ok result, after), rest)) :
    Notation.roll written mode faces = (.ok result, rest) ∧ after = record := by
  unfold Step.dice at done
  rcases made : Notation.roll written mode faces with ⟨error | found, left⟩
  · rw [made] at done
    cases done
  · rw [made] at done
    cases done
    exact ⟨rfl, rfl⟩

/-- What is lost comes from the dice alone. -/
theorem rollLoss_ok {command : Command} {level : Option Level} {succeeds : Bool} {record after : SanityRoll}
    {faces rest : Faces} {loss : Notation.Result}
    (done : rollLoss command level succeeds record faces = ((.ok loss, after), rest)) :
    after = record ∧ ∀ start, rollLoss command level succeeds start faces = ((.ok loss, start), rest) := by
  obtain ⟨written, mode, same⟩ : ∃ written mode, rollLoss command level succeeds = Step.dice written mode := by
    unfold rollLoss
    split
    · exact ⟨_, _, rfl⟩
    split
    · exact ⟨_, _, rfl⟩
    · exact ⟨_, _, rfl⟩
  rw [same] at done ⊢
  obtain ⟨thrown, rfl⟩ := dice_ok done
  refine ⟨rfl, fun start => ?_⟩
  unfold Step.dice
  rw [thrown]
  rfl

/-- A roll that tells of a change made a check. -/
theorem roll_checked {scene : Scene} {source : String} {faces rest : Faces} {roll : SanityRoll} {old new : Int}
    (done : SanityRoll.roll scene (.new source) faces = ((.ok (), roll), rest))
    (changes : roll.change = some (old, new)) :
    ∃ command check loss, Checked scene faces command check loss old roll := by
  unfold SanityRoll.roll at done
  obtain ⟨_, _, _, looked, done⟩ := bind_ok done
  cases looked
  have supported {after : SanityRoll} (kept : after.change = none) : after ≠ roll := by
    rintro rfl
    rw [changes] at kept
    cases kept
  dsimp only at done
  rw [show (SanityRoll.new source).source = source from rfl] at done
  cases read : readCommand? source.toList with
  | none =>
      rw [read] at done
      exact absurd (congrArg (·.1.2) done) (supported rfl)
  | some command =>
      rw [read] at done
      dsimp only at done
      cases value : checked? scene (command.value.bind readWord?) with
      | none =>
          rw [value] at done
          exact absurd (congrArg (·.1.2) done) (supported rfl)
      | some found =>
          rw [value] at done
          obtain ⟨_, _, _, named, done⟩ := bind_ok done
          cases named
          unfold SanityRoll.check at done
          obtain ⟨check, _, _, rolled, done⟩ := bind_ok done
          obtain ⟨thrown, rfl⟩ := dice_ok rolled
          obtain ⟨loss, _, _, lost, done⟩ := bind_ok done
          have kept := lost
          change rollLoss command (level? scene found check) (succeeds scene found check) _ _ = _ at kept
          obtain ⟨rfl, loses⟩ := rollLoss_ok kept
          obtain ⟨shown, _, _, told, done⟩ := bind_ok done
          cases told
          cases done
          obtain ⟨rfl, rfl⟩ : found = old ∧ _ = new := by simpa using changes
          exact ⟨command, check, loss, ⟨read, value, rfl, rfl, ⟨_, _, thrown, loses, rfl⟩, rfl⟩⟩

/-- The worst failure rolls the loss of a failure with all dice on their highest faces. -/
theorem Checked.worst {scene : Scene} {faces : Faces} {command : Command} {check loss : Notation.Result} {old : Int}
    {roll : SanityRoll} (checked : Checked scene faces command check loss old roll)
    (worst : level? scene old check = some .worst) :
    ∃ between after, Notation.roll "d100" .random faces = (.ok check, between) ∧
      Notation.roll (String.ofList command.failure) .maximize between = (.ok loss, after) := by
  obtain ⟨between, after, thrown, lost, _⟩ := checked.rolled
  have lost := lost roll
  rw [rollLoss, if_pos worst] at lost
  exact ⟨between, after, thrown, (dice_ok lost).1⟩

/-- The worst failure puts all dice of its loss on their highest faces. No stream of faces makes the loss greater if
its value rises with the faces of all dice. -/
theorem roll_losesMost {scene : Scene} {source : String} {faces rest : Faces} {roll : SanityRoll} {old new : Int}
    (done : SanityRoll.roll scene (.new source) faces = ((.ok (), roll), rest))
    (changes : roll.change = some (old, new)) :
    ∃ command check loss, Checked scene faces command check loss old roll ∧
      (level? scene old check = some .worst → (∀ die ∈ loss.dice, die.IsHighest) ∧
        ∀ expr, Notation.parse command.failure = .ok expr → expr.Follows .rising → ∀ other left result,
          Notation.roll (String.ofList command.failure) .random other = (.ok result, left) →
            result.total ≤ loss.total) := by
  obtain ⟨command, check, loss, checked⟩ := roll_checked done changes
  refine ⟨command, check, loss, checked, fun worst => ?_⟩
  obtain ⟨_, _, _, peaks⟩ := checked.worst worst
  refine ⟨Notation.roll_maximize_dice peaks, fun expr parsed rises other left result thrown => ?_⟩
  rw [← String.toList_ofList (l := command.failure)] at parsed
  exact Notation.roll_le_maximize parsed rises peaks thrown

/-- A scene without a card, with deciders and with replies that are empty. -/
def darkness : Scene :=
  let keys := ["roll.sc.first", "roll.sc.second", "roll.sc.third", "test.worst"]
  let texts := ⟨"own", "own", "", true, .ofPairs (keys.map fun key => (key, []))⟩
  let config :=
    { Config.standard .epoch with texts := [⟨.embedded "own", true⟩], own := ⟨Decider.embedded, [], [texts]⟩ }
  ⟨⟨"u1", "Maca", .user, "c1", none, none⟩, ⟨config, []⟩, .empty⟩

/-- With the highest face a check of sixty fails in the worst way and loses a number. -/
def FailsBy (command : Command) (source : String) (lost : Int) : Prop :=
  ∃ roll rest check between loss after,
    SanityRoll.roll darkness (.new source) (.constant 100) = ((.ok (), roll), rest) ∧
    roll.source = source ∧ readCommand? source.toList = some command ∧ roll.change = some (60, 60 - lost) ∧
    Notation.roll "d100" .random (.constant 100) = (.ok check, between) ∧ level? darkness 60 check = some .worst ∧
    Notation.roll (String.ofList command.failure) .maximize between = (.ok loss, after) ∧ loss.total = lost

theorem failsBy_of_rolled {command : Command} {source : String} {lost : Int}
    (read : readCommand? source.toList = some command)
    (rolled : let result := SanityRoll.roll darkness (.new source) (.constant 100)
      result.1.1.toOption = some () ∧ result.1.2.source = source ∧ result.1.2.change = some (60, 60 - lost))
    (maximized : let between := (Notation.roll "d100" .random (.constant 100)).2
      (Notation.roll (String.ofList command.failure) .maximize between).1.toOption.map (·.total) = some lost) :
    FailsBy command source lost := by
  have worst : (Notation.roll "d100" .random (.constant 100)).1.toOption.any
      (fun check => level? darkness 60 check = some .worst) = true := by decide +kernel
  obtain ⟨succeeds, kept, changes⟩ := rolled
  obtain ⟨check, thrown, worst⟩ := exists_of_any _ _ worst
  obtain ⟨loss, loses, total⟩ := Option.map_eq_some_iff.1 maximized
  exact ⟨_, _, check, _, loss, _, Prod.ext (Prod.ext (toOption_eq_some.1 succeeds) rfl) rfl, kept, read, changes,
    Prod.ext thrown rfl, of_decide_eq_true worst, Prod.ext (toOption_eq_some.1 loses) rfl, total⟩

/-- A die of ten faces and two lose twelve. -/
theorem roll_losesMost_twelve :
    ∃ roll rest command check loss expr,
      SanityRoll.roll darkness (.new "0/1d10+2 60") (.constant 100) = ((.ok (), roll), rest) ∧
      roll.change = some (60, 48) ∧ Checked darkness (.constant 100) command check loss 60 roll ∧
      level? darkness 60 check = some .worst ∧ Notation.parse command.failure = .ok expr ∧
      expr.Follows .rising ∧ loss.total = 12 ∧ ∀ other left result,
        Notation.roll (String.ofList command.failure) .random other = (.ok result, left) → result.total ≤ 12 := by
  have fails : FailsBy ⟨"0".toList, "1d10+2".toList, some "60".toList⟩ "0/1d10+2 60" 12 :=
    failsBy_of_rolled (by decide) (by decide +kernel) (by decide +kernel)
  obtain ⟨roll, rest, check, between, loss, after, rolled, kept, read, changes, thrown, worst, lost, total⟩ := fails
  obtain ⟨command, again, same, checked, most⟩ := roll_losesMost rolled changes
  have asked := checked.read
  rw [kept, read, Option.some.injEq] at asked
  subst asked
  obtain ⟨_, _, thrownToo, _⟩ := checked.rolled
  cases thrown.symm.trans thrownToo
  obtain ⟨_, _, thrownToo, lostToo⟩ := checked.worst worst
  cases thrown.symm.trans thrownToo
  cases lost.symm.trans lostToo
  have parsed : Notation.parse "1d10+2".toList = .ok (.binary (.dice ⟨1, 10, none, false⟩) .add (.constant 2)) := by
    decide +kernel
  have rises : (Notation.Expr.binary (.dice ⟨1, 10, none, false⟩) .add (.constant 2)).Follows .rising :=
    .add (.dice rfl) (.diceless rfl)
  refine ⟨roll, rest, _, check, loss, _, rolled, changes, checked, worst, parsed, rises, total, ?_⟩
  rw [← total]
  exact (most worst).2 _ parsed rises

/-- A die that explodes loses six although three sixes in a row would lose more, and a die that is taken away from
another one loses nothing although a six and a one would lose five. -/
theorem roll_losesMost_exceeded :
    (FailsBy ⟨"0".toList, "1d6!".toList, some "60".toList⟩ "0/1d6! 60" 6 ∧
      ∃ other left result, Notation.roll "1d6!" .random other = (.ok result, left) ∧ 6 < result.total) ∧
    FailsBy ⟨"0".toList, "1d6-1d6".toList, some "60".toList⟩ "0/1d6-1d6 60" 0 ∧
      ∃ other left result, Notation.roll "1d6-1d6" .random other = (.ok result, left) ∧ 0 < result.total := by
  have exceeds {written : String} {lost : Int} {faces : Faces}
      (more : (Notation.roll written .random faces).1.toOption.any (lost < ·.total) = true) :
      ∃ other left result, Notation.roll written .random other = (.ok result, left) ∧ lost < result.total := by
    obtain ⟨result, thrown, greater⟩ := exists_of_any _ _ more
    exact ⟨_, _, result, Prod.ext thrown rfl, of_decide_eq_true greater⟩
  exact ⟨⟨failsBy_of_rolled (by decide) (by decide +kernel) (by decide +kernel),
      exceeds (by decide +kernel : (Notation.roll "1d6!" .random (.cycle #[6, 6, 6, 1])).1.toOption.any
        (6 < ·.total) = true)⟩,
    failsBy_of_rolled (by decide) (by decide +kernel) (by decide +kernel),
    exceeds (by decide +kernel : (Notation.roll "1d6-1d6" .random (.cycle #[6, 1])).1.toOption.any
      (0 < ·.total) = true)⟩

end Tabletop.SanityRoll
