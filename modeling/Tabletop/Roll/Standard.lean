/-
This file defines standard rolls, which roll an expression and test the skills that follow it.
-/

import Tabletop.Card.Dnd
import Tabletop.Notation.Bonus
import Tabletop.Notation.Parser
import Tabletop.Opposed
import Tabletop.Roll.Scene
import Tabletop.Roll.Standard.Command

namespace Tabletop

/-- A standard roll from its command to its output. -/
structure StandardRoll where
  /-- The command. -/
  source : String
  /-- The rolls that expanding the command made. -/
  history : List InlineRoll
  state : RollState
  user : String
  username : String
  output : String
  /-- The full result of a hidden roll. -/
  privateOutput : Option String
  /-- The skills that get a growth mark. -/
  growth : List String

namespace StandardRoll

open Text Number

/-- A roll that is yet to be made. -/
def new (source : String) (history : List InlineRoll) : StandardRoll :=
  ⟨source, history, .initial, "", "", "", none, []⟩

/-- A step that works on the state of a roll. -/
abbrev Rolling := Step StandardRoll

def modifyState (change : RollState → RollState) : Rolling Unit :=
  modify fun roll => { roll with state := change roll.state }

/-! Reading the command -/

/-- Expands the text behind flags and repetitions: aliases first, then what hooks leave of it. -/
def expandText (scene : Scene) (text : List Char) : Rolling (List Char) :=
  Step.within (·.history) (fun roll history => { roll with history := history }) do
    let aliased ← Alias.resolve (scene.setup.aliases .expression) scene.context scene.card? text
    let hooked := scene.setup.parseDiceRollHooks.foldl (fun text hook => hook scene.context text)
      (String.ofList aliased)
    Template.expand scene.card? hooked.toList

/-- Cuts a text into expression and description. A text without notation is a description. -/
def splitExpression (scene : Scene) (text : List Char) : String × List Char :=
  match Notation.split? text with
  | some (expression, description) => (String.ofList expression, description)
  | none => (scene.setup.defaultExpression scene.cardKind, trim text)

/-- Reads the command of a roll. -/
def read (scene : Scene) : Rolling Unit := do
  let (flags, text) := splitFlags (trim (← get).source.toList)
  let (times, text) := splitTimes text
  let (expression, description) := splitExpression scene (← expandText scene text)
  modify fun roll => { roll with
    state :=
      { expression := expression
        description := String.ofList description
        hidden := flags.hidden
        quiet := flags.quiet
        versus := flags.versus
        times := times
        cardKind := scene.cardKind
        skills := skills description scene.card? scene.cardKind
        rolls := [] }
    user := scene.context.user
    username := scene.context.username }

/-! Rolling the dice -/

/-- What an entry adds to a roll. -/
def bonus (entry : Entry) : Int :=
  match entry.kind with
  | .props => attributeModifier entry.value
  | _ => entry.value

/-- The attempt that a roll is. -/
def attempt (result : Notation.Result) (base target : Int) : Attempt :=
  ⟨base, target, result.total, (result.firstFace? 20).map fun face => (face : Int)⟩

/-- The test of a skill whose bonus is part of the roll. The number behind its name has to be
reached. -/
def bonusTest (scene : Scene) (skill : Skill) (result : Notation.Result) (number : Int) : Test :=
  { skill := skill.name
    key := (skill.entry.map (·.key)).getD skill.name
    kind := (skill.entry.map (·.kind)).getD .skills
    base := number
    target := number
    modifier := skill.modifier
    isTemporary := true
    level := scene.setup.decide .dnd (attempt result number number) }

/-- The test of a skill against its value. -/
def valueTest (scene : Scene) (kind : CardKind) (skill : Skill) (result : Notation.Result)
    (entry : Entry) : Test :=
  let target := wrap (entry.value + skill.modifier)
  { skill := skill.name
    key := entry.key
    kind := entry.kind
    base := entry.baseValue
    target := target
    modifier := skill.modifier
    isTemporary := entry.isTemporary
    level := scene.setup.decide kind (attempt result entry.baseValue target) }

def addRoll (roll : TestedRoll) : Rolling Unit :=
  modifyState fun state => { state with rolls := state.rolls ++ [roll] }

/-- Rolls for one skill with its bonus. -/
def rollSkill (scene : Scene) (expression : String) (skill : Skill) : Rolling Unit := do
  let added := wrap ((skill.entry.map bonus).getD 0 + skill.modifier)
  let result ← Step.dice (Notation.withBonus expression added) .random
  addRoll ⟨some skill.name, result, (skill.number.map (bonusTest scene skill result)).toList⟩

/-- Rolls once and tests all skills. -/
def rollOnce (scene : Scene) (state : RollState) : Rolling Unit := do
  let result ← Step.dice state.expression .random
  let tests := state.skills.filterMap fun skill =>
    skill.entry.map (valueTest scene state.cardKind skill result)
  addRoll ⟨none, result, tests⟩

/-- Does a step so many times. -/
def repeated (step : Rolling Unit) : Nat → Rolling Unit
  | 0 => return ()
  | times + 1 => do
    step
    repeated step times

/-- Rolls what the state asks for. -/
def rollDice (scene : Scene) : Rolling Unit := do
  modifyState fun state => { state with rolls := [] }
  let state := (← get).state
  let times := max 1 (min state.times maxTimes)
  if state.cardKind = .dnd ∧ state.skills ≠ [] then
    repeated (state.skills.forM (rollSkill scene state.expression)) times
  else repeated (rollOnce scene state) times

/-! Growth marks -/

/-- The test earns a growth mark: a skill of the card succeeded without help. -/
def grows (test : Test) : Bool :=
  !test.isTemporary && test.modifier ≤ 0 && test.kind == .skills &&
    (test.level.map Level.isSuccess).getD false

/-- The skills that a roll lets grow, each once. Only one game system has growth. Rolls that keep low
dice, and rolls that others may answer, let nothing grow. -/
def growthOf (state : RollState) : List String :=
  if state.cardKind ≠ .coc || state.versus ||
      includes ['k', 'l'] (asciiLower state.expression.toList) then []
  else
    let tests := (state.rolls.flatMap (·.tests)).filter grows
    (tests.map (·.key)).foldl (fun keys key => if keys.contains key then keys else keys ++ [key]) []

/-! Output -/

/-- The variables for a result. -/
def resultVariables (base : Reply.Variables) (roll : TestedRoll) : Reply.Variables :=
  (base.insert "掷骰输出" roll.result.output).insert "掷骰结果" (intText roll.result.total)

def resultText (scene : Scene) (state : RollState) (roll : TestedRoll) : StateM Faces String :=
  scene.render (if state.quiet then "roll.result.quiet" else "roll.result")
    (resultVariables scene.bindings roll)

/-- Renders a test. The text of its level is picked first. -/
def testText (scene : Scene) (key : String) (roll : TestedRoll) (test : Test) :
    StateM Faces String := do
  let level ← scene.renderLevel test.level
  let bindings := (((resultVariables scene.bindings roll).insert "技能" test.skill).insert
    "目标值" (intText test.target)).insert "判定" level
  scene.render key bindings

/-- The tests of a roll: a single one stands in its line, others in lines of their own. -/
def testsText (scene : Scene) (roll : TestedRoll) : StateM Faces String :=
  match roll.tests with
  | [] => return ""
  | [test] => testText scene "roll.test" roll test
  | tests => do
    let lines ← tests.mapM (testText scene "roll.test.compound" roll)
    return String.join (lines.map ("\n" ++ ·))

/-- One roll of several. -/
def lineText (scene : Scene) (state : RollState) (roll : TestedRoll) : StateM Faces String :=
  match roll.label, roll.tests with
  | some _, test :: _ => testText scene "roll.dnd.line" roll test
  | some label, [] =>
    scene.render "roll.dnd.line"
      ((scene.bindings.insert "技能" label).insert "掷骰输出" roll.result.output)
  | none, _ => do
    let result ← resultText scene state roll
    return result ++ (← testsText scene roll)

/-- The lines of the rolls that expanding the command made. -/
def historyLines (scene : Scene) (history : List InlineRoll) : StateM Faces (List String) :=
  history.zipIdx.mapM fun (roll, index) =>
    scene.render (if index = 0 then "roll.inline.first" else "roll.inline.middle")
      ((scene.bindings.insert "描述" (roll.label.getD "")).insert "掷骰输出" roll.result.output)

/-- The rolls behind the start of their text. A single one stands in the line of the start. -/
def rollsText (scene : Scene) (state : RollState) (start : String) : StateM Faces String :=
  match state.rolls with
  | [only] => do
    let result ← resultText scene state only
    return start ++ " " ++ result ++ (← testsText scene only)
  | rolls => do
    let lines ← rolls.mapM (lineText scene state)
    return start ++ String.join (lines.map ("\n" ++ ·))

def fullText (scene : Scene) (roll : StandardRoll) : StateM Faces String := do
  let lines ← historyLines scene roll.history
  let start ← scene.render (if roll.history.isEmpty then "roll.start" else "roll.inline.last")
    (scene.bindings.insert "描述" roll.state.description)
  let main ← rollsText scene roll.state start
  return "\n".intercalate (lines ++ [main])

/-- Writes the output. The public output of a hidden roll tells only that there is one. -/
def write (scene : Scene) : Rolling Unit := do
  let roll ← get
  let full ← fullText scene roll
  if roll.state.hidden then
    let shown ← scene.render "roll.hidden" (scene.bindings.insert "描述" roll.state.description)
    set { roll with output := shown, privateOutput := some full }
  else set { roll with output := full, privateOutput := none }

/-! The whole roll -/

/-- Lets the hooks of a kind change the state. -/
def runHooks (scene : Scene) (kind : HookKind) : Rolling Unit :=
  modifyState fun state => (scene.setup.diceRollHooks kind).foldl (fun state hook => hook state) state

def roll (scene : Scene) : Rolling Unit := do
  read scene
  runHooks scene .beforeDiceRoll
  rollDice scene
  runHooks scene .afterDiceRoll
  modify fun roll => { roll with growth := growthOf roll.state }
  write scene

/-- Marks the skills that grow on the card that the sender holds now. -/
def apply (roll : StandardRoll) (now : Instant) (context : Context) (board : Board) :
    Except Fault (Board × List String) :=
  match board.registry.linkedName? context.channel context.user with
  | none => .ok (board, [])
  | some name => board.changeCard name fun card =>
    .ok (roll.growth.foldl (fun (card, changed) key =>
      let (card, marked) := card.markGrowth now key
      (card, changed || marked)) (card, false))

/-- What others may answer: an open roll with a single test. -/
def snapshot? (roll : StandardRoll) : Option Snapshot :=
  match roll.state.hidden, roll.state.rolls with
  | false, [⟨_, result, [test]⟩] =>
    some { user := roll.user
           username := roll.username
           cardKind := roll.state.cardKind
           skill := test.skill
           level := test.level
           target := test.target
           total := result.total
           output := result.output }
  | _, _ => none

end StandardRoll

end Tabletop
