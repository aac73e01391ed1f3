/-
This file writes what rolls work out as JSON.
-/

import Tabletop.Card.EntryFormat
import Tabletop.Initiative.Format
import Tabletop.Json.Value
import Tabletop.Roll

namespace Tabletop

def InlineRoll.toJson (roll : InlineRoll) : Json :=
  .object [("label", .ofOption .string roll.label), ("hidden", .bool roll.hidden),
    ("output", .string roll.result.output)]

def Skill.toJson (skill : Skill) : Json :=
  .object [("name", .string skill.name), ("modifier", .int skill.modifier),
    ("temp", .ofOption .int skill.number), ("entry", .ofOption Entry.toJson skill.entry)]

def Test.toJson (test : Test) : Json :=
  .object [("skill", .string test.skill), ("key", .string test.key),
    ("kind", .string test.kind.name), ("base", .int test.base), ("target", .int test.target),
    ("modifier", .int test.modifier), ("temp", .bool test.isTemporary),
    ("level", .ofOption (fun (level : Level) => .string level.name) test.level)]

def TestedRoll.toJson (roll : TestedRoll) : Json :=
  .object [("label", .ofOption .string roll.label), ("output", .string roll.result.output),
    ("tests", .ofList Test.toJson roll.tests)]

def RollState.toJson (state : RollState) : Json :=
  .object [("expression", .string state.expression), ("description", .string state.description),
    ("hidden", .bool state.hidden), ("quiet", .bool state.quiet), ("vs", .bool state.versus),
    ("times", .nat state.times), ("flavor", .string state.cardKind.name),
    ("skills", .ofList Skill.toJson state.skills), ("rolls", .ofList TestedRoll.toJson state.rolls)]

def GrowthCheck.toJson (check : GrowthCheck) : Json :=
  .array [.string check.skill, .string check.key, .bool check.isInline, .int check.roll,
    .int check.old, .ofOption .int check.gain, .int check.new]

def EntryWrite.toJson (write : EntryWrite) : Json :=
  .array [.string write.input, .string write.key, .ofOption .string write.roll,
    .ofOption .int write.old, .int write.requested, .int write.new]

/-- What a command was worked out as, besides its output. -/
def Evaluator.toJson : Evaluator → Json
  | .standard roll =>
    .object [("state", roll.state.toJson), ("history", .ofList InlineRoll.toJson roll.history),
      ("growth", .strings roll.growth)]
  | .opposed roll => .string roll.prior.user
  | .sanity roll => .ofOption (fun (old, new) => .array [.int old, .int new]) roll.change
  | .growth roll => .ofList GrowthCheck.toJson roll.checks
  | .initiative roll => .ofList Contender.toJson roll.contenders
  | .initiativeList _ => .null
  | .edit roll => .ofList EntryWrite.toJson roll.writes
  | .deathSave roll => .ofOption (fun (outcome : DeathSave) => .string outcome.name) roll.outcome
  | .link roll => .ofOption .string roll.target
  | .admin _ => .null

def Roll.toJson (roll : Roll) : Json :=
  .object [("kind", .string roll.evaluator.kind.name), ("phase", .string roll.phase.name),
    ("command", .string roll.command), ("output", .string roll.output),
    ("private", .ofOption .string roll.privateOutput), ("user", .string roll.context.user)]

/-- The receiver and the text of a message. -/
def Message.toJson (message : Message) : Json :=
  match message.receiver with
  | .channel id => .strings ["channel", id, message.text]
  | .user id => .strings ["user", id, message.text]

def AliasMatch.toJson (found : AliasMatch) : Json :=
  .object [("id", found.id.toJson), ("expanded", .text found.expanded),
    ("rest", .text found.rest), ("replaced", .bool found.replacement.isSome)]

end Tabletop
