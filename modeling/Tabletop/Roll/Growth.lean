/-
This file defines skill growth: the list of growth marks and the checks that they allow.
-/

import Tabletop.Roll.Scene

namespace Tabletop

/-- What a growth command asks for. -/
inductive GrowthAction where
  /-- A check for each marked skill. -/
  | checkMarked
  /-- Checks for some skills, or for values that stand in the command. -/
  | check (skills : List (String × Option Int))
  | list
  | mark (names : List String)
  | clear (names : List String)
deriving DecidableEq, Repr

/-- A check of one skill. -/
structure GrowthCheck where
  skill : String
  key : String
  /-- The value stands in the command itself. -/
  isInline : Bool
  roll : Int
  old : Int
  /-- What the skill gains, if it grows. -/
  gain : Option Int
deriving DecidableEq, Repr

structure GrowthRoll where
  action : GrowthAction
  /-- The name of the card that grows. -/
  card : Option String
  /-- The marks that are set or cleared. -/
  keys : List String
  checks : List GrowthCheck
  output : String
deriving DecidableEq, Repr

namespace GrowthAction

open Text Number

/-- The characters of the names of skills. -/
def isName (char : Char) : Bool :=
  !(isBlank char || isDecimal char)

/-- The names in a text, with the digits behind them. -/
def items (text : List Char) : List (List Char × List Char) :=
  match text with
  | [] => []
  | char :: rest =>
    if isName char then
      let behind := trimStart (rest.dropWhile isName)
      (char :: rest.takeWhile isName, behind.takeWhile isDecimal) ::
        items (behind.dropWhile isDecimal)
    else items rest
termination_by text.length
decreasing_by
  · have name := (List.dropWhile_suffix (l := rest) isName).length_le
    have blanks := (List.dropWhile_suffix (l := rest.dropWhile isName) isBlank).length_le
    have digits := (List.dropWhile_suffix
      (l := (rest.dropWhile isName).dropWhile isBlank) isDecimal).length_le
    simp only [List.length_cons]
    unfold trimStart
    omega
  · simp

/-- The words of a text as names. -/
def names (text : List Char) : List String :=
  (words text).map String.ofList

/-- Reads a command. -/
def parse (text : List Char) : GrowthAction :=
  let text := trim text
  if text.isEmpty then .checkMarked
  else if Command.afterKeyword? "list".toList text = some [] then .list
  else
    match Command.afterKeyword? "mark".toList text, Command.afterKeyword? "clear".toList text with
    | some rest, _ => .mark (names rest)
    | none, some rest => .clear (names rest)
    | none, none =>
      .check ((items text).map fun (name, digits) => (String.ofList name, readWord? digits))

end GrowthAction

/-- The value after a check. -/
def GrowthCheck.new (check : GrowthCheck) : Int :=
  Number.wrap (check.old + check.gain.getD 0)

namespace GrowthRoll

open Number

/-- Growth that is yet to be rolled. -/
def new (source : String) : GrowthRoll :=
  ⟨GrowthAction.parse source.toList, none, [], [], ""⟩

/-- Rolls above this number let every skill grow. -/
def alwaysGrowsAbove : Int := 95

/-- The card that can grow. -/
def card? (scene : Scene) : Option Card :=
  scene.card?.filter (·.kind == .coc)

/-- The marked skills. -/
def marked : Option Card → List String
  | some (.coc card) => card.growthSkills
  | _ => []

/-- The key and the value of a check, if there is something to check. -/
def subject? (card : Option Card) (name : String) (value : Option Int) : Option (String × Int) :=
  match value with
  | some value => some (name, value)
  | none => (card.bind (·.entryOf? name)).map fun entry => (entry.key, entry.baseValue)

/-- Rolls for one skill. -/
def rollCheck (card : Option Card) (name : String) (value : Option Int) : Step GrowthRoll Unit := do
  match subject? card name value with
  | none => return ()
  | some (key, old) =>
    let roll := (← Step.dice "d100" .random).total
    let gain ← if old < roll ∨ alwaysGrowsAbove < roll then
        (fun (result : Notation.Result) => some result.total) <$> Step.dice "d10" .random
      else pure none
    modify fun growth => { growth with
      checks := growth.checks ++ [⟨name, key, value.isSome, roll, old, gain⟩] }

/-- The line of a check. -/
def checkLine (scene : Scene) (check : GrowthCheck) : StateM Faces String :=
  scene.render "roll.en.line" (((((((scene.bindings.insert "技能" check.skill).insert
    "掷骰结果" (intText check.roll)).insert "目标值" (intText check.old)).insert
    "成长" (if check.gain.isSome then "true" else "false")).insert
    "成长值" (intText (check.gain.getD 0))).insert "旧值" (intText check.old)).insert
    "新值" (intText check.new))

def checksText (scene : Scene) (checks : List GrowthCheck) : StateM Faces String := do
  if checks.isEmpty then scene.render "roll.en.empty" scene.bindings
  else
    let start ← scene.render "roll.en.start" scene.bindings
    let lines ← checks.mapM (checkLine scene)
    return "\n".intercalate (start :: lines)

def reply (text : StateM Faces String) : Step GrowthRoll Unit := do
  let output ← text
  modify fun growth => { growth with output := output }

/-- Rolls the checks of some skills. -/
def rollChecks (scene : Scene) (skills : List (String × Option Int)) : Step GrowthRoll Unit := do
  skills.forM fun (name, value) => rollCheck (card? scene) name value
  reply (checksText scene (← get).checks)

/-- The reply with a list of skills. -/
def showSkills (scene : Scene) (key : String) (skills : List String) : Step GrowthRoll Unit :=
  reply (scene.render key (scene.bindings.insert "技能列表" ("、".intercalate skills)))

/-- Names the marks to be set or cleared. -/
def chooseMarks (scene : Scene) (card : Card) (key : String) (names : List String) :
    Step GrowthRoll Unit := do
  let keys := names.map fun name => ((card.entryOf? name).map (·.key)).getD name
  modify fun growth => { growth with keys := keys }
  showSkills scene key keys

def roll (scene : Scene) : Step GrowthRoll Unit := do
  let card := card? scene
  modify fun growth => { growth with card := card.map Card.name }
  match (← get).action, card with
  | .check skills, _ => rollChecks scene skills
  | _, none => reply (scene.render "card.empty" scene.bindings)
  | .checkMarked, some _ => rollChecks scene ((marked card).map fun key => (key, none))
  | .list, some _ =>
    if (marked card).isEmpty then reply (scene.render "roll.en.empty" scene.bindings)
    else showSkills scene "roll.en.list" (marked card)
  | .mark [], some _ => reply (scene.render "roll.en.empty" scene.bindings)
  | .mark names, some card => chooseMarks scene card "roll.en.mark" names
  | .clear names, some card => chooseMarks scene card "roll.en.clear" names

/-- Writes the gains of the checks. It tells whether something changed. -/
def writeGains (now : Instant) (checks : List GrowthCheck) (card : Card) :
    Except Fault (Card × Bool) :=
  checks.foldlM (fun (card, changed) check => do
    if check.gain.isSome then
      let (card, written) ← card.setEntry now check.key check.new
      return (card, changed || written)
    else return (card, changed)) (card, false)

/-- Writes the gains and takes the marks of the checked skills away. -/
def settleChecks (now : Instant) (checks : List GrowthCheck) (card : Card) :
    Except Fault (Card × Bool) := do
  let checks := checks.filter (!·.isInline)
  let (card, changed) ← writeGains now checks card
  if checks.isEmpty then return (card, changed)
  else
    let (card, cleared) := card.clearGrowth now (checks.map (·.key))
    return (card, changed || cleared)

/-- Sets the marks of some skills. It tells whether one is new. -/
def setMarks (now : Instant) (keys : List String) (card : Card) : Card × Bool :=
  keys.foldl (fun (card, changed) key =>
    let (card, marked) := card.markGrowth now key
    (card, changed || marked)) (card, false)

/-- Writes gains and marks to the card. -/
def apply (roll : GrowthRoll) (now : Instant) (board : Board) :
    Except Fault (Board × List String) :=
  match roll.card with
  | none => .ok (board, [])
  | some name => board.changeCard name fun card =>
    match roll.action with
    | .checkMarked => settleChecks now roll.checks card
    | .check _ => settleChecks now roll.checks card
    | .mark _ => .ok (setMarks now roll.keys card)
    | .clear _ => .ok (card.clearGrowth now roll.keys)
    | .list => .ok (card, false)

end GrowthRoll

end Tabletop
