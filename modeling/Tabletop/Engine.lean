/-
This file defines the engine, which handles the commands, reactions and messages of all channels.
-/

import Tabletop.Card.Format
import Tabletop.Config
import Tabletop.Config.Store
import Tabletop.Roll

namespace Tabletop

/-- A command with keywords of its own, which channels can switch off. -/
structure SpecialCommand where
  keywords : List String
  isOn : Switches → Bool
  /-- How the text behind the keyword is worked out. -/
  evaluator : String → Evaluator

namespace SpecialCommand

/-- The special commands in the order in which they are tried. -/
def all : List SpecialCommand :=
  [⟨["sc"], (·.sanity), fun text => .sanity (.new text)⟩,
   ⟨["en"], (·.growth), fun text => .growth (.new text)⟩,
   ⟨["ri"], (·.initiative), fun text => .initiative (.new text)⟩,
   ⟨["init"], (·.initiative), fun text => .initiativeList (.new text)⟩,
   ⟨["st"], (·.edit), fun text => .edit (.new text)⟩,
   ⟨["ds", "死亡豁免"], (·.deathSave), fun _ => .deathSave .new⟩,
   ⟨["nn"], (·.link), fun text => .link (.new text)⟩,
   ⟨["pc"], (·.admin), fun text => .admin (.new text)⟩]

/-- The special command that a text starts with, and the text behind the keyword. -/
def find? (text : List Char) : Option (SpecialCommand × String) :=
  all.findSome? fun command =>
    (Command.afterAnyKeyword? command.keywords text).map fun rest => (command, String.ofList rest)

end SpecialCommand

structure Engine where
  board : Board
  configs : ConfigStore
  plugins : Plugins
  /-- The rolls that others may answer. -/
  openRolls : OpenRolls
  faces : Faces

/-- What handling a command leads to. -/
structure Dispatched where
  engine : Engine
  /-- The roll, if the command led to one. -/
  roll : Option Roll
  messages : List Message

/-- What applying a roll leads to. -/
structure Applied where
  engine : Engine
  roll : Roll
  /-- The changed cards. -/
  cards : List Card
  messages : List Message

namespace Engine

open Text

/-- An engine without cards and plugins. -/
def new (now : Instant) (faces : Faces) : Engine :=
  ⟨.empty, .empty now, [], ∅, faces⟩

/-! Configs, plugins and cards -/

/-- Replaces the config of channels that have none. -/
def withDefaultConfig (engine : Engine) (now : Instant) (config : Config) : Engine :=
  { engine with
    configs := { engine.configs with standard := config }.sync now engine.plugins }

/-- Replaces all plugins. -/
def registerPlugins (engine : Engine) (now : Instant) (plugins : Plugins) : Engine :=
  { engine with plugins := plugins, configs := engine.configs.sync now plugins }

/-- The config of a channel with the plugins. -/
def setup (engine : Engine) (channel : String) : Setup :=
  ⟨engine.configs.get channel, engine.plugins⟩

/-- Gives a channel the config in a text, in line with the plugins. -/
def loadConfig (engine : Engine) (now : Instant) (channel text : String) :
    Except Error Engine := do
  let configs ← engine.configs.load now channel text
  let (config, _) := (configs.get channel).sync now engine.plugins
  return { engine with configs := configs.set channel config }

/-- Replaces the registry of cards. -/
def setRegistry (engine : Engine) (registry : Registry) : Engine :=
  { engine with board := { engine.board with registry := registry } }

/-- Adds the card in a text. It gives the card's name. -/
def loadCard (engine : Engine) (now : Instant) (text : String) : Except Error (Engine × String) := do
  let card ← Card.ofText now text
  return (engine.setRegistry (engine.board.registry.register card), card.name)

/-- The text of a card. -/
def exportCard (engine : Engine) (name : String) : Except Error String :=
  match engine.board.registry.get? name with
  | some card => .ok card.text
  | none => .error (.unknownCard name)

/-! Commands -/

/-- What a command finds around it. -/
def scene (engine : Engine) (context : Context) : Scene :=
  ⟨context, engine.setup context.channel, engine.board⟩

/-- The open roll that a command answers. Both rolls are of one game system. -/
def prior? (engine : Engine) (context : Context) : Option Snapshot := do
  let message ← context.replyTo
  if (engine.setup context.channel).config.switches.opposed then
    let prior ← engine.openRolls.find? context.channel message
    if prior.cardKind = (engine.scene context).cardKind then some prior else none
  else none

/-- How a command is worked out, unless it is switched off. -/
def evaluator? (engine : Engine) (context : Context) (text : List Char)
    (history : List InlineRoll) : Option Evaluator :=
  match SpecialCommand.find? text with
  | some (command, rest) =>
    if command.isOn (engine.setup context.channel).config.switches then
      some (command.evaluator rest)
    else none
  | none =>
    let standard := StandardRoll.new (String.ofList text) history
    match engine.prior? context with
    | some prior => some (.opposed (.new standard prior))
    | none => some (.standard standard)

/-- Expands the aliases of a command and works it out. -/
def evaluate (engine : Engine) (now : Instant) (command : Command) :
    Except Error (Option Roll) × Faces :=
  let context := command.context
  let scene := engine.scene context
  let aliases := scene.setup.aliases .command
  match Alias.resolve aliases context scene.card? (trim command.text.toList) [] engine.faces with
  | ((.error error, _), faces) => (.error error, faces)
  | ((.ok text, history), faces) =>
    match engine.evaluator? context text history with
    | none => (.ok none, faces)
    | some evaluator =>
      match (Roll.new (String.ofList text) context evaluator).roll scene now faces with
      | ((.error error, _), faces) => (.error error, faces)
      | ((.ok (), roll), faces) => (.ok (some roll), faces)

/-- Lets others answer a roll under a message. It tells whether the roll and the channel allow it. -/
def openRoll (engine : Engine) (channel message : String) (roll : Roll) : Engine × Bool :=
  match roll.snapshot?, (engine.setup channel).config.switches.opposed with
  | some snapshot, true =>
    ({ engine with openRolls := engine.openRolls.insert channel message snapshot }, true)
  | _, _ => (engine, false)

/-- Lets others answer a roll that asks for it. -/
def openIfWanted (engine : Engine) (roll : Roll) : Engine :=
  match roll.wantsReplies, roll.context.message with
  | true, some message => (engine.openRoll roll.context.channel message roll).1
  | _, _ => engine

/-- Passes a command from hook to hook until one of them handles it. -/
def receive : List (Command → Received) → Command → Received
  | [], command => ⟨command, false, []⟩
  | hook :: others, command =>
    let received := hook command
    if received.handled then received
    else
      let next := receive others received.command
      { next with messages := received.messages ++ next.messages }

/-- The message that a roll sends to its sender alone. -/
def privateMessages (roll : Roll) : List Message :=
  roll.privateOutput.toList.map fun text => ⟨.user roll.context.user, text⟩

/-- Handles a command. There is no roll if a hook handled it, if it is switched off or if it fails.
Only a fault ends the engine. -/
def dispatch (engine : Engine) (now : Instant) (command : Command) : Except Fault Dispatched :=
  let received := receive (engine.setup command.context.channel).receiveCommandHooks command
  if received.handled then .ok ⟨engine, none, received.messages⟩
  else
    match engine.evaluate now received.command with
    | (.error (.fault fault), _) => .error fault
    | (.error _, faces) => .ok ⟨{ engine with faces := faces }, none, received.messages⟩
    | (.ok none, faces) => .ok ⟨{ engine with faces := faces }, none, received.messages⟩
    | (.ok (some roll), faces) =>
      let engine := { engine with faces := faces }
      .ok ⟨engine.openIfWanted roll, some roll, received.messages ++ privateMessages roll⟩

/-! Changes -/

/-- The registered cards of some names, each once. -/
def cardsOf (registry : Registry) (names : List String) : List Card :=
  names.eraseDups.filterMap registry.get?

/-- Writes a roll to the cards, links and lists, and tells the hooks of each change. -/
def apply (engine : Engine) (now : Instant) (roll : Roll) : Except Error Applied := do
  let (roll, board, names) ← roll.apply now roll.context engine.board
  let changes := board.registry.changes
  let registry := board.registry.withoutChanges
  let hooks := (engine.setup roll.context.channel).cardEntryChangeHooks
  return { engine := { engine with board := { board with registry := registry } }
           roll := roll
           cards := cardsOf registry names
           messages := changes.flatMap fun change => hooks.flatMap fun hook => hook change }

/-! Reactions and messages -/

/-- Passes a reaction from hook to hook until one of them handles it. -/
def react (reaction : Reaction) : List (Reaction → Reacted) → Reacted
  | [] => ⟨false, []⟩
  | hook :: others =>
    let reacted := hook reaction
    if reacted.handled then reacted
    else
      let next := react reaction others
      { next with messages := reacted.messages ++ next.messages }

/-- The command in a message, which may start with a dot. -/
def commandOf (message : String) : String :=
  String.ofList ((Command.afterDot? message.toList).getD (trim message.toList))

/-- Handles a reaction. One of the channel's emojis rolls the message that carries it. -/
def dispatchReaction (engine : Engine) (now : Instant) (messageText? : String → Option String)
    (reaction : Reaction) : Except Fault Dispatched :=
  let setup := engine.setup reaction.context.channel
  let reacted := react reaction setup.messageReactionHooks
  let trigger := setup.config.switches.reaction
  let idle : Dispatched := ⟨engine, none, reacted.messages⟩
  if reacted.handled || !(trigger.enabled && trigger.emojis.contains reaction.emoji) then .ok idle
  else
    match (messageText? reaction.message).map commandOf with
    | none => .ok idle
    | some "" => .ok idle
    | some text => do
      let dispatched ← engine.dispatch now ⟨text, reaction.context⟩
      return { dispatched with messages := reacted.messages ++ dispatched.messages }

/-- Expands a plain message. There is no reply if nothing was rolled. -/
def replyText (scene : Scene) (text : List Char) : ExceptT Error (StateM Faces) (Option String) :=
  fun faces =>
    match Template.expand scene.card? text [] faces with
    | ((.error error, _), faces) => (.error error, faces)
    | ((.ok _, []), faces) => (.ok none, faces)
    | ((.ok message, _), faces) =>
      let (reply, faces) := scene.render "roll.message"
        (scene.bindings.insert "消息" (String.ofList message)) faces
      (.ok (some reply), faces)

/-- Rolls the groups in a plain message, if the channel wants that. -/
def renderMessage (engine : Engine) (text : String) (context : Context) :
    Except Error (Option String) × Engine :=
  let scene := engine.scene context
  if scene.setup.config.switches.inMessage && includes ['[', '['] text.toList then
    let (result, faces) := replyText scene text.toList engine.faces
    (result, { engine with faces := faces })
  else (.ok none, engine)

end Engine

end Tabletop
