/-
This file runs the commands of the command line.
-/

import Tabletop.Card
import Tabletop.CommandLine.Session
import Tabletop.Text.Grid

namespace Tabletop

open Text

/-- What a run shows, and why it ends without success. -/
structure Outcome where
  output : String
  failure : Option Failure
deriving DecidableEq, Repr

namespace Outcome

def fail (text : String) : Outcome :=
  ⟨"", some (.error text)⟩

/-- The exit code of a program. -/
def code (outcome : Outcome) : Nat :=
  match outcome.failure with
  | none => 0
  | some (.error _) => 1
  | some (.fault _) => 101

/-- The line that tells of an error. -/
def errorLine (outcome : Outcome) : Option String :=
  match outcome.failure with
  | some (.error text) => some ("error: " ++ text)
  | _ => none

end Outcome

namespace CommandLine

variable {m : Type → Type} [Monad m]

/-- Runs a single command. -/
def roll (files : Files m) (now : Instant) (random : Faces) (options : SessionOptions)
    (text : String) : m Outcome := do
  match ← Session.start files now random options with
  | .error failure => return ⟨"", some failure⟩
  | .ok session =>
    let text := Session.commandOf text
    let executed ← session.execute files now text
    match executed.result with
    | .ok true => return ⟨executed.output, none⟩
    | .ok false => return ⟨executed.output, some (.error ("'" ++ text ++ "' produced no roll"))⟩
    | .error failure => return ⟨executed.output, some failure⟩

/-- Answers the lines of a conversation. -/
def converse (files : Files m) (now : Instant) (session : Session) :
    (lines : List String) → m Outcome
  | [] => return ⟨Session.prompt, none⟩
  | line :: others => do
    match ← session.answer files now line with
    | .next session output =>
      let rest ← converse files now session others
      return { rest with output := Session.prompt ++ output ++ rest.output }
    | .quit => return ⟨Session.prompt, none⟩
    | .failed output fault => return ⟨Session.prompt ++ output, some (.fault fault)⟩

/-- Greets and answers the lines of a text. -/
def repl (files : Files m) (now : Instant) (random : Faces) (options : SessionOptions)
    (input : String) : m Outcome := do
  match ← Session.start files now random options with
  | .error failure => return ⟨"", some failure⟩
  | .ok session =>
    let outcome ← converse files now session ((lines input.toList).map String.ofList)
    return { outcome with output := session.greeting ++ outcome.output }

/-! Cards -/

def columns : List (List Char) :=
  ["Group".toList, "Entry".toList, "Value".toList]

/-- The text that shows a card. -/
def cardText (card : Card) : String :=
  let rows := card.rows.map fun row => [row.group.toList, row.key.toList, row.value.toList]
  let body := if rows.isEmpty then ["  No entries.".toList] else gridLines columns rows
  let shown := ("  ".toList ++ card.title) :: body
  String.ofList (shown.flatMap fun line => line ++ ['\n'])

/-- Shows the card in a file. -/
def showCard (files : Files m) (now : Instant) (path : String) : m Outcome := do
  match ← (Session.readFile files Card.thing path (Card.ofText now)).run with
  | .error failure => return ⟨"", some failure⟩
  | .ok card => return ⟨cardText card, none⟩

/-- Writes an empty card to a new file. -/
def newCard (files : Files m) (now : Instant) (kind name : String) (output : Option String) :
    m Outcome := do
  match CardKind.parse? kind with
  | none => return .fail ("unknown card type '" ++ kind ++ "' (expected coc, dnd or general)")
  | some kind =>
    let path := output.getD (name ++ ".json")
    if ← files.holds path then return .fail (path ++ " already exists")
    else
      match ← files.write path (Card.new kind name now).text with
      | .error fault => return .fail ("cannot write " ++ path ++ ": " ++ fault.message)
      | .ok () =>
        return ⟨"  Created " ++ kind.name ++ " card '" ++ name ++ "' in " ++ path ++ "\n", none⟩

/-- Runs a command. The input is read by conversations alone. -/
def run (files : Files m) (now : Instant) (random : Faces) (input : String) :
    Invocation → m Outcome
  | .roll options text => roll files now random options text
  | .repl options => repl files now random options input
  | .card file => showCard files now file
  | .new kind name output => newCard files now kind name output

/-! Help -/

def version : String := "0.1.0"

def usage : String :=
  "Usage: pt <command>\n\n" ++
  "  roll [options] <text>...           run a single command\n" ++
  "  repl [options]                     answer the commands of the input until 'quit'\n" ++
  "  card <file>                        show a card\n" ++
  "  new [-o <file>] <kind> <name>      write an empty card: coc, dnd or general\n\n" ++
  "Options: -c/--card <file>, --config <file>, --user <id>, --name <name>, --channel <id>,\n" ++
  "  -s/--seed <number>, --fixed <face>, --save\n"

/-- What is shown instead of a run, and the exit code. -/
def haltText : Halt → String × Nat
  | .help => (usage, 0)
  | .version words => ("-".intercalate words ++ " " ++ version ++ "\n", 0)
  | .misuse => (usage, 2)

end CommandLine

end Tabletop
