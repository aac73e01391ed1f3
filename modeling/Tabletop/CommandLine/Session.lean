/-
This file runs single commands of one user in one channel.
-/

import Tabletop.CommandLine.Files
import Tabletop.CommandLine.Options
import Tabletop.Engine

namespace Tabletop

open Text

/-- Why a program ends without success. -/
inductive Failure where
  | error (text : String)
  | fault (fault : Fault)
deriving DecidableEq, Repr

/-- The failure behind an error, with a text in front of it. -/
def Failure.ofError (lead : String) : Error → Failure
  | .fault cause => .fault cause
  | other => .error (lead ++ other.message)

/-- An engine with one user, whose card may lie in a file. -/
structure Session where
  engine : Engine
  context : Context
  /-- The name and the file of the user's card. -/
  card : Option (String × String)
  /-- Changes of the card are written to its file. -/
  save : Bool

/-- What running a command leads to. -/
structure Executed where
  session : Session
  output : String
  /-- Whether something was rolled, unless it failed. -/
  result : Except Failure Bool

namespace Session

variable {m : Type → Type} [Monad m]

/-- The faces that some options ask for. -/
def facesOf (options : SessionOptions) (random : Faces) : Faces :=
  match options.fixed, options.seed with
  | some face, _ => .constant face
  | none, some seed => .seeded seed
  | none, none => random

/-- Does something with the text of a file. -/
def readFile {α : Type} (files : Files m) (thing path : String)
    (load : String → Except Error α) : ExceptT Failure m α := do
  match ← files.read path with
  | .error fault => throw (.error ("cannot read " ++ path ++ ": " ++ fault.message))
  | .ok text =>
    match load text with
    | .error error => throw (.ofError ("invalid " ++ thing ++ " " ++ path ++ ": ") error)
    | .ok value => return value

/-- Loads the config of the channel, if there is a file for it. -/
def loadConfig (files : Files m) (now : Instant) (options : SessionOptions) (engine : Engine) :
    ExceptT Failure m Engine :=
  match options.config with
  | none => return engine
  | some path => readFile files Config.thing path (engine.loadConfig now options.channel)

/-- Loads the card of the user and links it, if there is a file for it. -/
def loadCard (files : Files m) (now : Instant) (options : SessionOptions) (engine : Engine) :
    ExceptT Failure m (Engine × Option (String × String)) :=
  match options.card with
  | none => return (engine, none)
  | some path => do
    let (engine, name) ← readFile files Card.thing path (engine.loadCard now)
    let registry := engine.board.registry.link options.channel options.user (some name)
    return (engine.setRegistry registry.withoutChanges, some (name, path))

/-- The session that some options ask for. -/
def start (files : Files m) (now : Instant) (random : Faces) (options : SessionOptions) :
    ExceptT Failure m Session := do
  let engine ← loadConfig files now options (.new now (facesOf options random))
  let (engine, card) ← loadCard files now options engine
  let context : Context := ⟨options.user, options.username, .user, options.channel, none, none⟩
  return ⟨engine, context, card, options.save⟩

/-- The line that shows a message. -/
def messageLine (message : Message) : String :=
  match message.receiver with
  | .channel _ => message.text ++ "\n"
  | .user id => "[私聊 " ++ id ++ "] " ++ message.text ++ "\n"

def messageLines (messages : List Message) : String :=
  String.join (messages.map messageLine)

/-- Writes a text to a file. It gives the line that tells so. -/
def writeFile (files : Files m) (path text : String) : ExceptT Failure m String := do
  match ← files.write path text with
  | .error fault => throw (.error ("cannot write " ++ path ++ ": " ++ fault.message))
  | .ok () => return "  Saved " ++ path ++ "\n"

/-- Writes the user's card to its file, if it is among the changed ones and is to be saved. -/
def saveCard (files : Files m) (session : Session) (changed : List Card) :
    ExceptT Failure m String := do
  match session.card with
  | none => return ""
  | some (name, path) =>
    if session.save && changed.any (·.name == name) then
      match session.engine.exportCard name with
      | .error error => throw (.ofError "" error)
      | .ok text => writeFile files path text
    else return ""

/-- Applies a roll and shows what it sends. -/
def commit (files : Files m) (now : Instant) (session : Session) (roll : Roll) (output : String) :
    m Executed := do
  match session.engine.apply now roll with
  | .error error => return ⟨session, output, .error (.ofError "" error)⟩
  | .ok applied =>
    let session := { session with engine := applied.engine }
    let output := output ++ messageLines applied.messages
    match ← saveCard files session applied.cards with
    | .error failure => return ⟨session, output, .error failure⟩
    | .ok saved => return ⟨session, output ++ saved, .ok true⟩

/-- Runs a command, shows its output and commits its changes. -/
def execute (files : Files m) (now : Instant) (session : Session) (text : String) : m Executed := do
  match session.engine.dispatch now ⟨text, session.context⟩ with
  | .error fault => return ⟨session, "", .error (.fault fault)⟩
  | .ok ⟨engine, none, messages⟩ =>
    return ⟨{ session with engine := engine }, messageLines messages, .ok false⟩
  | .ok ⟨engine, some roll, messages⟩ =>
    let session := { session with engine := engine }
    session.commit files now roll (messageLines messages ++ roll.output ++ "\n")

/-- The command in a text, which may start with a dot. -/
def commandOf (text : String) : String :=
  match Command.afterDot? text.toList with
  | some command => String.ofList command
  | none => text

/-! Conversation -/

/-- What shows that a line is awaited. -/
def prompt : String := "> "

def greeting (session : Session) : String :=
  "  Starting dice session as " ++ session.context.username ++ "\n" ++
    "  Type a command such as 'r d100 侦查', 'quit' to exit.\n\n"

/-- What a line leads to. -/
inductive Answered where
  | next (session : Session) (output : String)
  | quit
  | failed (output : String) (fault : Fault)

/-- Answers a line of a conversation. -/
def answer (files : Files m) (now : Instant) (session : Session) (line : String) : m Answered := do
  let input := String.ofList (trim line.toList)
  if input.isEmpty then return .next session ""
  else if ["quit", "q"].any (sameUpToAsciiCase input) then return .quit
  else
    let executed ← session.execute files now (commandOf input)
    match executed.result with
    | .ok true => return .next executed.session (executed.output ++ "\n")
    | .ok false => return .next executed.session (executed.output ++ "(no roll)\n\n")
    | .error (.error text) => return .next executed.session (executed.output ++ text ++ "\n\n")
    | .error (.fault fault) => return .failed executed.output fault

end Session

end Tabletop
