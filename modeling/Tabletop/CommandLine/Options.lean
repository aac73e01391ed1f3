/-
This file reads the words of a command line.
-/

import Tabletop.Number.Numeral
import Tabletop.Text.Cut

namespace Tabletop

open Text

/-- The options of the commands that run the engine. -/
structure SessionOptions where
  /-- The file with the card of the user. -/
  card : Option String
  /-- The file with the config of the channel. -/
  config : Option String
  user : String
  username : String
  channel : String
  seed : Option Nat
  /-- The face of every die. -/
  fixed : Option Nat
  /-- Changes of the card are written to its file. -/
  save : Bool
deriving DecidableEq, Repr

inductive Invocation where
  | roll (options : SessionOptions) (text : String)
  | repl (options : SessionOptions)
  | card (file : String)
  | new (kind name : String) (output : Option String)
deriving DecidableEq, Repr

/-- Why a command line runs nothing. -/
inductive Halt where
  | help
  /-- The version is asked for, after these words. -/
  | version (words : List String)
  | misuse
deriving DecidableEq, Repr

namespace CommandLine

/-- What stands behind an option. -/
inductive OptionKind where
  | switch
  | text
  /-- A text that is not empty. -/
  | path
  /-- A number of 64 bits. -/
  | word
  /-- A number of 32 bits. A minus sign is allowed before zero. -/
  | count
  | help
  | version
deriving DecidableEq, Repr

structure OptionRule where
  name : String
  letter : Option Char
  kind : OptionKind
deriving DecidableEq, Repr

/-- What a command takes. -/
structure Rules where
  words : List String
  options : List OptionRule
  /-- The number of words besides the options. -/
  positionals : Nat
  /-- All words from the first one on that is no option are one text. -/
  trailing : Bool
deriving DecidableEq, Repr

/-- The options and the other words that were found, the latest first. -/
structure Found where
  options : List (String × String)
  positionals : List String
deriving DecidableEq, Repr

namespace OptionKind

/-- No value stands behind the option. -/
def isBare : OptionKind → Bool
  | .switch => true
  | .help => true
  | .version => true
  | _ => false

/-- A text is a value of an option. -/
def accepts : OptionKind → String → Bool
  | .path, value => !value.isEmpty
  | .word, value => (Number.readBelow? Number.wordRange value.toList).isSome
  | .count, value => (Number.readWord? value.toList).any fun number =>
      0 ≤ number && number < (Number.countRange : Int)
  | _, _ => true

end OptionKind

namespace Found

def none : Found :=
  ⟨[], []⟩

/-- Adds the value of an option, which stands at most once. -/
def addOption (found : Found) (option : OptionRule) (value : String) : Except Halt Found :=
  if found.options.any (·.1 == option.name) || !option.kind.accepts value then .error .misuse
  else .ok { found with options := (option.name, value) :: found.options }

def addPositional (found : Found) (rules : Rules) (word : String) : Except Halt Found :=
  if !rules.trailing && rules.positionals ≤ found.positionals.length then .error .misuse
  else .ok { found with positionals := word :: found.positionals }

def addPositionals (found : Found) (rules : Rules) (words : List String) : Except Halt Found :=
  words.foldlM (fun found word => found.addPositional rules word) found

/-- The value of an option. -/
def option? (found : Found) (name : String) : Option String :=
  (found.options.find? (·.1 == name)).map (·.2)

end Found

namespace Rules

def optionNamed? (rules : Rules) (name : List Char) : Option OptionRule :=
  rules.options.find? (·.name.toList == name)

def optionLettered? (rules : Rules) (letter : Char) : Option OptionRule :=
  rules.options.find? (·.letter == some letter)

/-- An option without a value. -/
def meetBare (rules : Rules) (found : Found) (option : OptionRule) : Except Halt Found :=
  match option.kind with
  | .help => .error .help
  | .version => .error (.version rules.words)
  | _ => found.addOption option ""

/-- A word by its look. -/
inductive Look where
  /-- Two hyphens. All words behind them are no options. -/
  | escape
  | long (name : List Char) (value : Option (List Char))
  | letters (letters : List Char)
  | plain
deriving DecidableEq, Repr

def lookOf (word : String) : Look :=
  match word.toList with
  | ['-', '-'] => .escape
  | '-' :: '-' :: rest =>
    match cutAt? ['='] rest with
    | some (name, value) => .long name (some value)
    | none => .long rest none
  | '-' :: letter :: rest => .letters (letter :: rest)
  | _ => .plain

/-- A word that looks like options names none. -/
def isStray (rules : Rules) : Look → Bool
  | .escape => false
  | .long name _ => (rules.optionNamed? name).isNone
  | .letters letters => letters.any fun letter => (rules.optionLettered? letter).isNone
  | .plain => false

/-- A word may be the value of an option. In front of a text, stray hyphens may be values too. -/
def mayBeValue (rules : Rules) (word : String) : Bool :=
  let look := lookOf word
  look = .plain || (rules.trailing && rules.isStray look)

/-- Options by letters. The last of them may still want a value. -/
def meetLetters (rules : Rules) (found : Found) :
    List Char → Except Halt (Found × Option OptionRule)
  | [] => .ok (found, none)
  | letter :: rest =>
    match rules.optionLettered? letter with
    | none => .error .misuse
    | some option =>
      if option.kind.isBare then do
        let found ← rules.meetBare found option
        rules.meetLetters found rest
      else
        match rest with
        | [] => .ok (found, some option)
        | '=' :: value => do
          return (← found.addOption option (String.ofList value), none)
        | value => do
          return (← found.addOption option (String.ofList value), none)

/-- An option by its name, which may still want a value. -/
def meetLong (rules : Rules) (found : Found) (name : List Char) (value : Option (List Char)) :
    Except Halt (Found × Option OptionRule) :=
  match rules.optionNamed? name, value with
  | none, _ => .error .misuse
  | some option, some value =>
    if option.kind.isBare then .error .misuse
    else do
      return (← found.addOption option (String.ofList value), none)
  | some option, none =>
    if option.kind.isBare then do
      return (← rules.meetBare found option, none)
    else .ok (found, some option)

/-- Reads the words behind a command. -/
def scan (rules : Rules) (found : Found) (open? : Option OptionRule) :
    List String → Except Halt Found
  | [] => if open?.isSome then .error .misuse else .ok found
  | word :: others =>
    match open? with
    | some option =>
      if rules.mayBeValue word then do
        let found ← found.addOption option word
        rules.scan found none others
      else .error .misuse
    | none =>
      let look := lookOf word
      if rules.trailing && (look = .plain || rules.isStray look) then
        found.addPositionals rules (word :: others)
      else
        match look with
        | .escape => found.addPositionals rules others
        | .plain => do
          let found ← found.addPositional rules word
          rules.scan found none others
        | .long name value => do
          let (found, open?) ← rules.meetLong found name value
          rules.scan found open? others
        | .letters letters => do
          let (found, open?) ← rules.meetLetters found letters
          rules.scan found open? others

/-- Reads the words behind a command, which has all the words that it needs. -/
def read (rules : Rules) (words : List String) : Except Halt Found := do
  let found ← rules.scan .none none words
  if found.positionals.length < rules.positionals then throw .misuse
  return { found with positionals := found.positionals.reverse }

end Rules

/-! Commands -/

/-- The options that every command has. -/
def commonOptions : List OptionRule :=
  [⟨"help", some 'h', .help⟩, ⟨"version", some 'V', .version⟩]

def sessionOptions : List OptionRule :=
  [⟨"card", some 'c', .path⟩, ⟨"config", none, .path⟩, ⟨"user", none, .text⟩,
   ⟨"name", none, .text⟩, ⟨"channel", none, .text⟩, ⟨"seed", some 's', .word⟩,
   ⟨"fixed", none, .count⟩, ⟨"save", none, .switch⟩]

def program : Rules :=
  ⟨["pt"], commonOptions, 0, false⟩

def rollRules : Rules :=
  ⟨["pt", "roll"], sessionOptions ++ commonOptions, 1, true⟩

def replRules : Rules :=
  ⟨["pt", "repl"], sessionOptions ++ commonOptions, 0, false⟩

def cardRules : Rules :=
  ⟨["pt", "card"], commonOptions, 1, false⟩

def newRules : Rules :=
  ⟨["pt", "new"], ⟨"output", some 'o', .path⟩ :: commonOptions, 2, false⟩

/-- The options that were found. Every face is fixed or made from a seed, and only the changes of a
card can be saved. -/
def sessionOf (found : Found) : Except Halt SessionOptions :=
  let options : SessionOptions :=
    { card := found.option? "card"
      config := found.option? "config"
      user := (found.option? "user").getD "cli"
      username := (found.option? "name").getD "player"
      channel := (found.option? "channel").getD "cli"
      seed := (found.option? "seed").bind fun value =>
        Number.readBelow? Number.wordRange value.toList
      fixed := (found.option? "fixed").bind fun value =>
        (Number.readWord? value.toList).map Int.toNat
      save := (found.option? "save").isSome }
  if (options.seed.isSome && options.fixed.isSome) || (options.save && options.card.isNone) then
    .error .misuse
  else .ok options

/-- Every command has a help text. -/
def helpOn : List String → Halt
  | [] => .help
  | [word] => if ["roll", "repl", "card", "new", "help"].contains word then .help else .misuse
  | _ => .misuse

/-- The command of a command line. -/
def invocation : List String → Except Halt Invocation
  | "roll" :: words => do
    let found ← rollRules.read words
    return .roll (← sessionOf found) (" ".intercalate found.positionals)
  | "repl" :: words => do
    let found ← replRules.read words
    return .repl (← sessionOf found)
  | "card" :: words => do
    match (← cardRules.read words).positionals with
    | [file] => if file.isEmpty then throw .misuse else return .card file
    | _ => throw .misuse
  | "new" :: words => do
    let found ← newRules.read words
    match found.positionals with
    | [kind, name] => return .new kind name (found.option? "output")
    | _ => throw .misuse
  | "help" :: words => .error (helpOn words)
  | words => do
    let _ ← program.read words
    throw .misuse

end CommandLine

end Tabletop
