/-
This file reads aliases that are written as literal texts with slots for numbers.

The literal text is found in any case. A slot takes decimal digits, and may stand for a standard
number where there are none.
-/

import Tabletop.Number.Real
import Tabletop.Pattern.Match
import Tabletop.Pattern.Parser
import Tabletop.Rule.Eval
import Tabletop.Rule.Parser
import Tabletop.Text.Cut

namespace Tabletop.Alias

open Text

/-- A run of a text, or the trimmed inside of a slot. -/
inductive Part where
  | run (text : List Char)
  | slot (inside : List Char)
deriving DecidableEq, Repr

/-- A run as a list of parts. Empty runs are left out. -/
def runs (text : List Char) : List Part :=
  if text.isEmpty then [] else [.run text]

/-- A text cut at its first slot. -/
def cutAtSlot? (text : List Char) : Option (List Char × List Char × List Char) := do
  let (before, rest) ← cutAt? ['\x7b', '\x7b'] text
  let (inside, behind) ← cutAt? ['\x7d', '\x7d'] rest
  return (before, inside, behind)

theorem lengthCutAtSlot {text before inside behind : List Char}
    (found : cutAtSlot? text = some (before, inside, behind)) : behind.length < text.length := by
  unfold cutAtSlot? at found
  cases opened : cutAt? ['\x7b', '\x7b'] text with
  | none => simp [opened] at found
  | some outer =>
    obtain ⟨first, rest⟩ := outer
    have outerSize := lengthCutAt opened
    cases closed : cutAt? ['\x7d', '\x7d'] rest with
    | none => simp [opened, closed] at found
    | some inner =>
      obtain ⟨second, last⟩ := inner
      have innerSize := lengthCutAt closed
      simp only [opened, closed, Option.bind_eq_bind, Option.bind_some, Option.pure_def,
        Option.some.injEq, Prod.mk.injEq] at found
      rw [← found.2.2]
      simp only [List.length_cons, List.length_nil] at *
      omega

/-- The runs and slots of a text. -/
def parts (text : List Char) : List Part :=
  match _found : cutAtSlot? text with
  | some (before, inside, behind) => runs before ++ .slot (trim inside) :: parts behind
  | none => runs text
termination_by text.length
decreasing_by exact lengthCutAtSlot _found

/-- A name for the number in a slot, with the numeral that stands for missing digits. -/
structure Slot where
  name : List Char
  standard : Option (List Char)
deriving DecidableEq, Repr

/-- Reads the inside of a slot. -/
def Slot.ofInside (inside : List Char) : Slot :=
  match cutAt? ['='] inside with
  | some (name, standard) => ⟨trim name, some (trim standard)⟩
  | none => ⟨inside, none⟩

def Part.slot? : Part → Option Slot
  | .run _ => none
  | .slot inside => some (Slot.ofInside inside)

/-- The slots of a text in their order. -/
def slots (parts : List Part) : List Slot :=
  parts.filterMap Part.slot?

/-- A character in any case. -/
def charNode (char : Char) : Pattern.Node :=
  .one (.anyCase (.single char))

/-- The digits of a slot. They may be missing where there is a standard number. -/
def Slot.node (slot : Slot) : Pattern.Node :=
  match slot.standard with
  | some _ => .optional true (.repeated true (.one .decimal))
  | none => .repeated true (.one .decimal)

/-- The nodes of a text. The slots are groups with the numbers from `index` on. -/
def nodes : (index : Nat) → List Part → List Pattern.Node
  | _, [] => []
  | index, .run text :: rest => text.map charNode ++ nodes index rest
  | index, .slot inside :: rest =>
    .group index (Slot.ofInside inside).node :: nodes (index + 1) rest

/-- The characters that mean something in patterns. -/
def isPatternSign (char : Char) : Bool :=
  "\\.+*?()|[]\x7b\x7d^$#&-~".toList.contains char

/-- A part as it stands in the text of a pattern. -/
def Part.source : Part → List Char
  | .run text => text.flatMap fun char => if isPatternSign char then ['\\', char] else [char]
  | .slot inside =>
    let slot := Slot.ofInside inside
    "(?P<".toList ++ slot.name ++ ">\\d".toList ++ [if slot.standard.isSome then '*' else '+', ')']

/-- The pattern of a text that begins where the text is searched. The names of slots name groups. A
text with other names is read as the text of a pattern. -/
def pattern? (parts : List Part) : Option Pattern :=
  let names := (slots parts).map (·.name)
  if names.all Pattern.isGroupName && names.Nodup then
    some ⟨.sequences (.anchor .textStart :: nodes 1 parts),
      names.map fun name => some (String.ofList name)⟩
  else Pattern.parse? ("(?i)^".toList ++ parts.flatMap Part.source)

/-- The text in a slot: the digits that it took, or else its standard number, or else zero. -/
def Slot.numeral (slot : Slot) (digits : Option (List Char)) : List Char :=
  match digits.filter (fun digits => !digits.isEmpty) with
  | some digits => digits
  | none => slot.standard.getD ['0']

/-- The number in a slot. A numeral that cannot be read stands for zero. -/
def Slot.number (slot : Slot) (digits : Option (List Char)) : Float :=
  (Number.readFloat? (slot.numeral digits)).getD 0.0

/-- The numbers in the slots of a match by their names. -/
def numbers (parts : List Part) (found : String → Option (List Char)) : Rule.Variables Float :=
  .ofList ((slots parts).map fun slot =>
    (String.ofList slot.name, slot.number (found (String.ofList slot.name))))

/-- The text of a part of a replacement. The inside of a slot is an expression. -/
def Part.fill (bindings : Rule.Variables Float) : Part → Except Rule.Error (List Char)
  | .run text => .ok text
  | .slot inside => do
    let expr ← Rule.parse inside
    let value ← expr.eval Rule.floating bindings
    return value.text

/-- The text of a replacement. -/
def fill (bindings : Rule.Variables Float) (replacement : List Char) :
    Except Rule.Error (List Char) := do
  let texts ← (parts replacement).mapM (·.fill bindings)
  return texts.flatten

end Tabletop.Alias
