/-
This file proves what handling a command leaves alone, and what commands are worked out as.

A command is worked out on the board as it is. Only applying its roll writes something down.
-/

import Tabletop.Engine
import Tabletop.Proofs.Result
import Tabletop.Proofs.Roll.Target

namespace Tabletop

/-- A roll that was made keeps all but its evaluator and its phase. -/
theorem Roll.roll_ok {roll after : Roll} {scene : Scene} {now : Instant} {faces rest : Faces}
    (made : roll.roll scene now faces = ((.ok (), after), rest)) :
    after = { roll with evaluator := (roll.evaluator.roll scene now faces).1.2, phase := .rolled } := by
  unfold Roll.roll at made
  split at made
  · split at made
    · next outcome =>
      cases made
      rw [outcome]
    · cases made
  · cases made

/-- A roll is made by its evaluator. -/
theorem Roll.roll_evaluator {roll after : Roll} {scene : Scene} {now : Instant} {faces rest : Faces}
    (made : roll.roll scene now faces = ((.ok (), after), rest)) :
    roll.evaluator.roll scene now faces = ((.ok (), after.evaluator), rest) := by
  unfold Roll.roll at made
  split at made
  · split at made
    · next outcome =>
      cases made
      exact outcome
    · cases made
  · cases made

namespace Engine

variable {engine : Engine} {now : Instant} {command : Command} {dispatched : Dispatched}

/-- The command that the hooks of the channel leave to be worked out. -/
def received (engine : Engine) (command : Command) : Command :=
  (receive (engine.setup command.context.channel).receiveCommandHooks command).command

/-- What the hooks of the channel send on their own. -/
def hookMessages (engine : Engine) (command : Command) : List Message :=
  (receive (engine.setup command.context.channel).receiveCommandHooks command).messages

theorem evaluator?_aims {context : Context} {text : List Char} {history : List InlineRoll}
    {evaluator : Evaluator} (chosen : engine.evaluator? context text history = some evaluator) :
    evaluator.Aims (engine.scene context) := by
  unfold evaluator? at chosen
  split at chosen
  · next found =>
    split at chosen
    · cases chosen
      exact SpecialCommand.evaluator_aims found
    · cases chosen
  · dsimp only at chosen
    split at chosen
    · cases chosen
      trivial
    · cases chosen
      trivial

/-- A command that is worked out is the roll of the evaluator that its text, with the aliases expanded,
calls for. -/
theorem evaluate_ok {roll : Roll} {faces : Faces}
    (evaluated : engine.evaluate now command = (.ok (some roll), faces)) :
    ∃ text history left evaluator,
      Alias.resolve ((engine.scene command.context).setup.aliases .command) command.context
        (engine.scene command.context).card? (Text.trim command.text.toList) [] engine.faces =
          ((.ok text, history), left) ∧
      engine.evaluator? command.context text history = some evaluator ∧
      (Roll.new (String.ofList text) command.context evaluator).roll (engine.scene command.context)
        now left = ((.ok (), roll), faces) := by
  unfold evaluate at evaluated
  dsimp only at evaluated
  split at evaluated
  · cases evaluated
  · next resolved =>
    split at evaluated
    · cases evaluated
    · next chosen =>
      split at evaluated
      · cases evaluated
      · next made =>
        cases evaluated
        exact ⟨_, _, _, _, resolved, chosen, made⟩

/-- A roll that was worked out is made but not applied, and it aims at cards of its sender. -/
theorem evaluate_roll {roll : Roll} {faces : Faces}
    (evaluated : engine.evaluate now command = (.ok (some roll), faces)) :
    roll.phase = .rolled ∧ roll.context = command.context ∧
      roll.evaluator.Aims (engine.scene command.context) := by
  obtain ⟨text, history, left, evaluator, _, chosen, made⟩ := evaluate_ok evaluated
  rw [Roll.roll_ok made]
  exact ⟨rfl, rfl, Evaluator.roll_aims now _ (evaluator?_aims chosen)⟩

/-- All that handling a command can lead to: no roll and at most other faces, or a roll that was worked
out and then opened to replies if it asks for them. -/
theorem dispatch_cases (handled : engine.dispatch now command = .ok dispatched) :
    (dispatched.roll = none ∧ ∃ faces, dispatched.engine = { engine with faces := faces }) ∨
      ∃ roll faces, dispatched.roll = some roll ∧
        engine.evaluate now (engine.received command) = (.ok (some roll), faces) ∧
        dispatched.engine = openIfWanted { engine with faces := faces } roll := by
  unfold dispatch at handled
  dsimp only at handled
  split at handled
  · cases handled
    exact .inl ⟨rfl, engine.faces, rfl⟩
  · split at handled
    · cases handled
    · cases handled
      exact .inl ⟨rfl, _, rfl⟩
    · cases handled
      exact .inl ⟨rfl, _, rfl⟩
    · next evaluated =>
      cases handled
      exact .inr ⟨_, _, rfl, evaluated, rfl⟩

/-- What handling a command does if it leads to a roll: the command that the hooks leave was worked out,
its roll is opened if it asks for that, and the sender gets what the roll says to the sender alone. -/
theorem dispatch_roll {roll : Roll} (handled : engine.dispatch now command = .ok dispatched)
    (rolled : dispatched.roll = some roll) :
    ∃ faces, engine.evaluate now (engine.received command) = (.ok (some roll), faces) ∧
      dispatched.engine = openIfWanted { engine with faces := faces } roll ∧
      dispatched.messages = engine.hookMessages command ++ privateMessages roll := by
  unfold dispatch at handled
  dsimp only at handled
  split at handled
  · cases handled
    cases rolled
  · split at handled
    · cases handled
    · cases handled
      cases rolled
    · cases handled
      cases rolled
    · next evaluated =>
      cases handled
      cases rolled
      exact ⟨_, evaluated, rfl, rfl⟩

/-- A roll is opened to replies only if it asks for them, has a message and can be compared, and if the
channel allows it. -/
theorem openIfWanted_cases (engine : Engine) (roll : Roll) :
    engine.openIfWanted roll = engine ∨
      ∃ message snapshot, roll.wantsReplies = true ∧ roll.context.message = some message ∧
        roll.snapshot? = some snapshot ∧
        (engine.setup roll.context.channel).config.switches.opposed = true ∧
        engine.openIfWanted roll =
          { engine with
            openRolls := engine.openRolls.insert roll.context.channel message snapshot } := by
  unfold openIfWanted
  split
  · next wanted sent =>
    unfold openRoll
    split
    · next compared allowed => exact .inr ⟨_, _, wanted, sent, compared, allowed, rfl⟩
    · exact .inl rfl
  · exact .inl rfl

/-- Two engines have the same cards, links, lists, configs and plugins. -/
structure SameRecords (before after : Engine) : Prop where
  board : after.board = before.board
  configs : after.configs = before.configs
  plugins : after.plugins = before.plugins

theorem SameRecords.refl (engine : Engine) : SameRecords engine engine := ⟨rfl, rfl, rfl⟩

theorem SameRecords.trans {first middle last : Engine} (left : SameRecords first middle)
    (right : SameRecords middle last) : SameRecords first last :=
  ⟨right.board.trans left.board, right.configs.trans left.configs, right.plugins.trans left.plugins⟩

theorem openRoll_records (engine : Engine) (channel message : String) (roll : Roll) :
    SameRecords engine (engine.openRoll channel message roll).1 := by
  unfold openRoll
  split
  · exact ⟨rfl, rfl, rfl⟩
  · exact .refl engine

theorem openIfWanted_records (engine : Engine) (roll : Roll) :
    SameRecords engine (engine.openIfWanted roll) := by
  unfold openIfWanted
  split
  · exact openRoll_records _ _ _ _
  · exact .refl engine

theorem dispatch_records (handled : engine.dispatch now command = .ok dispatched) :
    SameRecords engine dispatched.engine := by
  rcases dispatch_cases handled with ⟨_, faces, same⟩ | ⟨roll, faces, _, _, opened⟩
  · rw [same]
    exact ⟨rfl, rfl, rfl⟩
  · have other : SameRecords engine { engine with faces := faces } := ⟨rfl, rfl, rfl⟩
    rw [opened]
    exact other.trans (openIfWanted_records _ roll)

theorem dispatchReaction_records {messageText? : String → Option String} {reaction : Reaction}
    (handled : engine.dispatchReaction now messageText? reaction = .ok dispatched) :
    SameRecords engine dispatched.engine := by
  unfold dispatchReaction at handled
  dsimp only at handled
  split at handled
  · cases handled
    exact .refl engine
  split at handled
  · cases handled
    exact .refl engine
  · cases handled
    exact .refl engine
  · obtain ⟨rolled, commanded, same⟩ := bind_eq_ok.1 handled
    cases same
    have records := dispatch_records commanded
    exact records

theorem renderMessage_records (engine : Engine) (text : String) (context : Context) :
    SameRecords engine (engine.renderMessage text context).2 := by
  unfold renderMessage
  dsimp only
  split
  · exact ⟨rfl, rfl, rfl⟩
  · exact .refl engine

/-- What an engine answers in a row as long as no roll is applied: commands, reactions and messages. Its
rolls may be opened to replies in between. -/
inductive Answers (first : Engine) : Engine → Prop where
  | start : Answers first first
  | command {engine : Engine} {now : Instant} {command : Command} {dispatched : Dispatched}
      (before : Answers first engine) (handled : engine.dispatch now command = .ok dispatched) :
      Answers first dispatched.engine
  | reaction {engine : Engine} {now : Instant} {messageText? : String → Option String}
      {reaction : Reaction} {dispatched : Dispatched} (before : Answers first engine)
      (handled : engine.dispatchReaction now messageText? reaction = .ok dispatched) :
      Answers first dispatched.engine
  | message {engine : Engine} (before : Answers first engine) (text : String) (context : Context) :
      Answers first (engine.renderMessage text context).2
  | replies {engine : Engine} (before : Answers first engine) (channel message : String) (roll : Roll) :
      Answers first (engine.openRoll channel message roll).1

/-- Nothing is written down until a roll is applied. The induction is on what was answered before. -/
theorem Answers.records {first last : Engine} (run : Answers first last) : SameRecords first last := by
  induction run with
  | start => exact .refl first
  | command before handled inductionHypothesis =>
      exact inductionHypothesis.trans (dispatch_records handled)
  | reaction before handled inductionHypothesis =>
      exact inductionHypothesis.trans (dispatchReaction_records handled)
  | message before text context inductionHypothesis =>
      exact inductionHypothesis.trans (renderMessage_records _ text context)
  | replies before channel message roll inductionHypothesis =>
      exact inductionHypothesis.trans (openRoll_records _ channel message roll)

/-- Texts that leave some replies empty. -/
def muteTexts : Reply.TextSet where
  id := "mute"
  name := "mute"
  description := ""
  defaultEnabled := true
  texts := Table.ofPairs
    (["pc.new", "roll.start", "roll.result", "roll.test"].map fun key => (key, []))

/-- An engine whose channels have these texts and no aliases. -/
def muted : Engine :=
  { Engine.new .epoch (.constant 1) with
    configs :=
      { standard := { Config.standard .epoch with
          aliases := []
          texts := [⟨.embedded "mute", true⟩]
          own := ⟨[], [], [muteTexts]⟩ }
        channels := ∅ } }

/-- An engine whose channels have some texts of their own and no aliases. -/
def saying (texts : List (String × List Reply.Item)) : Engine :=
  { muted with
    configs :=
      { muted.configs with
        standard := { muted.configs.standard with
          texts := [⟨.embedded "own", true⟩]
          own := ⟨[], [], [⟨"own", "own", "", true, Table.ofPairs texts⟩]⟩ } } }

/-- A user whose message others may answer. -/
def sender : Context :=
  ⟨"u1", "Maca", .user, "c1", some "m1", none⟩

end Engine

/-- The evaluator is one that a command begins with. Nothing was rolled yet. -/
inductive Evaluator.Fresh : Evaluator → Prop where
  | standard (source : String) (history : List InlineRoll) : Fresh (.standard (.new source history))
  | opposed (source : String) (history : List InlineRoll) (prior : Snapshot) :
      Fresh (.opposed (.new (.new source history) prior))
  | sanity (source : String) : Fresh (.sanity (.new source))
  | growth (source : String) : Fresh (.growth (.new source))
  | initiative (source : String) : Fresh (.initiative (.new source))
  | initiativeList (source : String) : Fresh (.initiativeList (.new source))
  | edit (source : String) : Fresh (.edit (.new source))
  | deathSave : Fresh (.deathSave .new)
  | link (source : String) : Fresh (.link (.new source))
  | admin (source : String) : Fresh (.admin (.new source))

theorem SpecialCommand.evaluator_fresh {command : SpecialCommand} {rest : String} {text : List Char}
    (found : find? text = some (command, rest)) : (command.evaluator rest).Fresh := by
  obtain ⟨listed, member, chosen⟩ := List.exists_of_findSome?_eq_some found
  obtain ⟨_, _, same⟩ := Option.map_eq_some_iff.1 chosen
  cases same
  simp only [all, List.mem_cons, List.not_mem_nil, or_false] at member
  rcases member with rfl | rfl | rfl | rfl | rfl | rfl | rfl | rfl
  · exact .sanity _
  · exact .growth _
  · exact .initiative _
  · exact .initiativeList _
  · exact .edit _
  · exact .deathSave
  · exact .link _
  · exact .admin _

namespace Engine

variable {engine : Engine} {now : Instant} {command : Command} {dispatched : Dispatched} {roll : Roll}

theorem evaluator?_fresh {context : Context} {text : List Char} {history : List InlineRoll}
    {start : Evaluator} (chosen : engine.evaluator? context text history = some start) :
    start.Fresh := by
  unfold evaluator? at chosen
  split at chosen
  · next found =>
    split at chosen
    · cases chosen
      exact SpecialCommand.evaluator_fresh found
    · cases chosen
  · dsimp only at chosen
    split at chosen
    · cases chosen
      exact .opposed _ _ _
    · cases chosen
      exact .standard _ _

/-- The roll of a command began fresh and was worked out in the scene of the command. -/
theorem dispatch_evaluation (handled : engine.dispatch now command = .ok dispatched)
    (rolled : dispatched.roll = some roll) :
    ∃ (start : Evaluator) (faces rest : Faces), start.Fresh ∧
      start.roll (engine.scene (engine.received command).context) now faces =
        ((.ok (), roll.evaluator), rest) := by
  obtain ⟨_, evaluated, _⟩ := dispatch_roll handled rolled
  obtain ⟨text, history, left, start, _, chosen, made⟩ := evaluate_ok evaluated
  exact ⟨start, left, _, evaluator?_fresh chosen, Roll.roll_evaluator made⟩

/-- The roll of a command is made but not applied, and its context is that of the command. -/
theorem dispatch_made (handled : engine.dispatch now command = .ok dispatched)
    (rolled : dispatched.roll = some roll) :
    roll.phase = .rolled ∧ roll.context = (engine.received command).context ∧
      roll.evaluator.Aims (engine.scene (engine.received command).context) := by
  obtain ⟨_, evaluated, _⟩ := dispatch_roll handled rolled
  exact evaluate_roll evaluated

end Engine

end Tabletop
