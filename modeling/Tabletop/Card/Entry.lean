/-
This file defines what a name on a card stands for.
-/

import Tabletop.Number.Numeral
import Tabletop.Text.Cut
import Tabletop.Text.Lowercase

namespace Tabletop

/-- The game system of a card. -/
inductive CardKind where
  | general
  | coc
  | dnd
deriving DecidableEq, Repr

namespace CardKind

def name : CardKind → String
  | .general => "general"
  | .coc => "coc"
  | .dnd => "dnd"

def all : List CardKind :=
  [.general, .coc, .dnd]

/-- The kind with a name, in any case. -/
def parse? (text : String) : Option CardKind :=
  all.find? fun kind => Text.sameUpToAsciiCase kind.name text

end CardKind

/-- Where the value of an entry comes from. -/
inductive EntryKind where
  | props
  | skills
  | basic
  | computed
deriving DecidableEq, Repr

/-- How hard a test is. -/
inductive Difficulty where
  | normal
  | hard
  | extreme
deriving DecidableEq, Repr

namespace Difficulty

/-- The part of a value that counts is one over this number. -/
def divisor : Difficulty → Int
  | .normal => 1
  | .hard => 2
  | .extreme => 5

/-- The words in front of a name that make its test harder. -/
def words : List (String × Difficulty) :=
  [("困难", .hard), ("极难", .extreme), ("极限", .extreme), ("hard", .hard),
   ("extreme", .extreme), ("ex", .extreme)]

/-- What follows a word at the start of a text, up to ASCII case. -/
def afterWord? (word text : List Char) : Option (List Char) :=
  (Text.after? (Text.asciiLower word) (Text.asciiLower text)).map fun _ => text.drop word.length

/-- Takes the first word that is followed by something off the text. -/
def split (text : List Char) : Difficulty × List Char :=
  let found := words.findSome? fun (word, difficulty) =>
    match afterWord? word.toList text with
    | some (char :: rest) => some (difficulty, char :: rest)
    | _ => none
  found.getD (.normal, text)

end Difficulty

/-- What a name asks for about an attribute. -/
inductive Postfix where
  | modifier
  | saving
deriving DecidableEq, Repr

/-- How the value of an entry follows from its base value. -/
inductive EntryModifier where
  | none
  | difficulty (difficulty : Difficulty)
  | ofPostfix (postfixKind : Postfix)
deriving DecidableEq, Repr

/-- A number that a name stands for. The value is what tests count, the base value what is stored. -/
structure Entry where
  input : String
  key : String
  value : Int
  baseValue : Int
  isTemporary : Bool
  isReadonly : Bool
  kind : EntryKind
  modifier : EntryModifier
deriving DecidableEq, Repr

namespace Entry

/-- A number that is kept on the card. -/
def stored (input key : String) (value : Int) (kind : EntryKind) : Entry :=
  ⟨input, key, value, value, false, false, kind, .none⟩

/-- A number that follows from the others on the card. -/
def computed (input key : String) (value : Int) : Entry :=
  { stored input key value .computed with isReadonly := true }

/-- A number that stands in the command itself. -/
def temporary (input : String) (value : Int) (difficulty : Difficulty) : Entry :=
  { input := input
    key := input
    value := value.tdiv difficulty.divisor
    baseValue := value
    isTemporary := true
    isReadonly := true
    kind := .skills
    modifier := .difficulty difficulty }

/-- The entry with the part of its base value that a difficulty leaves. -/
def withDifficulty (entry : Entry) (difficulty : Difficulty) : Entry :=
  { entry with
    value := entry.baseValue.tdiv difficulty.divisor
    modifier := .difficulty difficulty }

end Entry

/-- An expression that a name stands for. -/
structure Ability where
  input : String
  key : String
  expression : String
  isReadonly : Bool
deriving DecidableEq, Repr

/-- The values before and after a change. -/
inductive ChangedValue where
  | entry (old : Option Int) (new : Int)
  | ability (old : Option String) (new : String)
  | growthMark (marked : Bool)
deriving DecidableEq, Repr

/-- A change of one entry, ability or mark of a card. -/
structure CardChange where
  cardName : String
  key : String
  value : ChangedValue
deriving DecidableEq, Repr

/-- The number after a change of an entry. -/
def CardChange.newValue (change : CardChange) : Option Int :=
  match change.value with
  | .entry _ new => some new
  | _ => none

/-- An operation met bounds of which the lower one is above the upper one. -/
inductive Fault where
  | invertedBounds
deriving DecidableEq, Repr

end Tabletop
