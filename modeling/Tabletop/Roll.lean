/-
This file defines rolls of all kinds and how they go from a command to a change of the cards.
-/

import Tabletop.Roll.Admin
import Tabletop.Roll.Death
import Tabletop.Roll.Edit
import Tabletop.Roll.Growth
import Tabletop.Roll.Initiative
import Tabletop.Roll.Link
import Tabletop.Roll.Opposed
import Tabletop.Roll.Sanity

namespace Tabletop

inductive RollKind where
  | standard
  | opposed
  | sanity
  | growth
  | initiative
  | initiativeList
  | edit
  | deathSave
  | link
  | admin
deriving DecidableEq, Repr

def RollKind.name : RollKind → String
  | .standard => "Standard"
  | .opposed => "Opposed"
  | .sanity => "SanCheck"
  | .growth => "Growth"
  | .initiative => "Initiative"
  | .initiativeList => "InitiativeList"
  | .edit => "CardEdit"
  | .deathSave => "DeathSave"
  | .link => "Link"
  | .admin => "CardAdmin"

/-- What a command is worked out as. -/
inductive Evaluator where
  | standard (roll : StandardRoll)
  | opposed (roll : OpposedRoll)
  | sanity (roll : SanityRoll)
  | growth (roll : GrowthRoll)
  | initiative (roll : InitiativeRoll)
  | initiativeList (roll : InitiativeListRoll)
  | edit (roll : EditRoll)
  | deathSave (roll : DeathRoll)
  | link (roll : LinkRoll)
  | admin (roll : AdminRoll)

namespace Evaluator

def kind : Evaluator → RollKind
  | .standard _ => .standard
  | .opposed _ => .opposed
  | .sanity _ => .sanity
  | .growth _ => .growth
  | .initiative _ => .initiative
  | .initiativeList _ => .initiativeList
  | .edit _ => .edit
  | .deathSave _ => .deathSave
  | .link _ => .link
  | .admin _ => .admin

/-- The outcome of rolling. What was worked out before a failure is kept. -/
abbrev Outcome := (Except Error Unit × Evaluator) × Faces

/-- Takes a step with one kind of roll. -/
def take {σ : Type} (wrap : σ → Evaluator) (step : Step σ Unit) (roll : σ) (faces : Faces) :
    Outcome :=
  let ((result, after), faces) := step roll faces
  ((result, wrap after), faces)

/-- Works a command out. The cards stay as they are. -/
def roll (scene : Scene) (now : Instant) (faces : Faces) : Evaluator → Outcome
  | .standard roll => take .standard (StandardRoll.roll scene) roll faces
  | .opposed roll => take .opposed (OpposedRoll.roll scene) roll faces
  | .sanity roll => take .sanity (SanityRoll.roll scene) roll faces
  | .growth roll => take .growth (GrowthRoll.roll scene) roll faces
  | .initiative roll => take .initiative (InitiativeRoll.roll scene) roll faces
  | .initiativeList roll => take .initiativeList (InitiativeListRoll.roll scene) roll faces
  | .edit roll => take .edit (EditRoll.roll scene now) roll faces
  | .deathSave roll => take .deathSave (DeathRoll.roll scene) roll faces
  | .link roll => take .link (LinkRoll.roll scene) roll faces
  | .admin roll => take .admin (AdminRoll.roll scene) roll faces

/-- What everyone sees. -/
def output : Evaluator → String
  | .standard roll => roll.output
  | .opposed roll => roll.output
  | .sanity roll => roll.output
  | .growth roll => roll.output
  | .initiative roll => roll.output
  | .initiativeList roll => roll.output
  | .edit roll => roll.output
  | .deathSave roll => roll.output
  | .link roll => roll.output
  | .admin roll => roll.output

/-- What only the sender sees. -/
def privateOutput : Evaluator → Option String
  | .standard roll => roll.privateOutput
  | _ => none

/-- What a reply is compared with. -/
def snapshot? : Evaluator → Option Snapshot
  | .standard roll => roll.snapshot?
  | _ => none

/-- The command asks that others may answer. -/
def wantsReplies : Evaluator → Bool
  | .standard roll => roll.state.versus
  | _ => false

/-- Writes what was worked out to the cards, links and lists. It gives the names of the changed
cards. -/
def apply (now : Instant) (context : Context) (board : Board) :
    Evaluator → Except Fault (Board × List String)
  | .standard roll => roll.apply now context board
  | .opposed roll => roll.apply now context board
  | .sanity roll => roll.apply now board
  | .growth roll => roll.apply now board
  | .initiative roll => .ok (roll.apply context board, [])
  | .initiativeList roll => .ok (roll.apply context board, [])
  | .edit roll => roll.apply now board
  | .deathSave roll => roll.apply now board
  | .link roll => .ok (roll.apply context board, [])
  | .admin roll => .ok (roll.apply now context board)

end Evaluator

/-- A command that is rolled once and applied once. -/
structure Roll where
  evaluator : Evaluator
  phase : Phase
  context : Context
  /-- The command with its aliases expanded. -/
  command : String

namespace Roll

/-- A roll that is yet to be made. -/
def new (command : String) (context : Context) (evaluator : Evaluator) : Roll :=
  ⟨evaluator, .pending, context, command⟩

/-- Works the command out, unless that was done. -/
def roll (roll : Roll) (scene : Scene) (now : Instant) (faces : Faces) :
    (Except Error Unit × Roll) × Faces :=
  if roll.phase = .pending then
    match roll.evaluator.roll scene now faces with
    | ((.ok (), evaluator), faces) =>
      ((.ok (), { roll with evaluator := evaluator, phase := .rolled }), faces)
    | ((.error error, evaluator), faces) =>
      ((.error error, { roll with evaluator := evaluator }), faces)
  else ((.error (.rolledIn roll.phase), roll), faces)

/-- What everyone sees. There is nothing to see before the roll. -/
def output (roll : Roll) : String :=
  if roll.phase = .pending then "" else roll.evaluator.output

/-- What only the sender sees. -/
def privateOutput (roll : Roll) : Option String :=
  if roll.phase = .pending then none else roll.evaluator.privateOutput

/-- What a reply is compared with. -/
def snapshot? (roll : Roll) : Option Snapshot :=
  if roll.phase = .pending then none else roll.evaluator.snapshot?

/-- The command asks that others may answer. -/
def wantsReplies (roll : Roll) : Bool :=
  roll.evaluator.wantsReplies

/-- Writes what was worked out, unless that was done. It gives the names of the changed cards. -/
def apply (roll : Roll) (now : Instant) (context : Context) (board : Board) :
    Except Error (Roll × Board × List String) :=
  if roll.phase = .rolled then
    match roll.evaluator.apply now context board with
    | .ok (board, names) => .ok ({ roll with phase := .applied }, board, names)
    | .error fault => .error (.fault fault)
  else .error (.appliedIn roll.phase)

end Roll

end Tabletop
