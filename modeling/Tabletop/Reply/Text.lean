/-
This file defines sets of reply texts, how one of several candidates is picked, and how variables are filled into it.

A tag stands between two opening and two closing braces. A name is replaced by the variable's text.
A section runs from a tag with `#` or `^` to the tag with `/` and the same name. With `#` it is shown
if the variable is set, with `^` if it is not.
-/

import Tabletop.Faces
import Tabletop.Json.Decode
import Tabletop.Number.Numeral
import Tabletop.Table
import Tabletop.Text.Cut

namespace Tabletop.Reply

/-- A template with its share of the picks. -/
structure Item where
  text : String
  weight : Nat
deriving DecidableEq, Repr

/-- Reply templates by their keys. -/
structure TextSet where
  id : String
  name : String
  description : String
  defaultEnabled : Bool
  texts : Table (List Item)
deriving DecidableEq

/-- The item in whose share the number falls. -/
def itemAt? : (number : Nat) → List Item → Option Item
  | _, [] => none
  | number, item :: others =>
    if number ≤ item.weight then some item else itemAt? (number - item.weight) others

/-- Picks an item with the chances that the weights give. One item, or items without weight, need no
number. The sum of the weights has 32 bits. -/
def pick (items : List Item) : StateM Faces (Option Item) := do
  match items with
  | [] => return none
  | [only] => return some only
  | first :: _ =>
    let total := Number.total (items.map (·.weight)) % Number.countRange
    if total = 0 then return some first
    else
      let number ← Faces.draw 1 total
      return (itemAt? number items).or items.getLast?

namespace Item

def toJson (item : Item) : Json :=
  .object [("text", .string item.text), ("weight", .nat item.weight)]

def decode : Decoder Item := fun json => do
  let record ← json.record? ["text", "weight"]
  return { text := ← record.required "text" .string
           weight := ← record.withDefault "weight" .count 1 }

end Item

namespace TextSet

def toJson (set : TextSet) : Json :=
  .object [("id", .string set.id), ("name", .string set.name),
    ("description", .string set.description), ("defaultEnabled", .bool set.defaultEnabled),
    ("texts", .ofTable (.ofList Item.toJson) set.texts)]

def decode : Decoder TextSet := fun json => do
  let record ← json.record? ["id", "name", "description", "defaultEnabled", "texts"]
  return { id := ← record.required "id" .string
           name := ← record.required "name" .string
           description := ← record.withDefault "description" .string ""
           defaultEnabled := ← record.withDefault "defaultEnabled" .bool true
           texts := ← record.withDefault "texts" (.table (.list Item.decode)) ∅ }

end TextSet

/-! Filling variables in -/

open Text

/-- The texts of the variables of a template. -/
abbrev Variables := Table String

def opening : List Char := ['\x7b', '\x7b']

def closing : List Char := ['\x7d', '\x7d']

/-- The text of a variable. One that is missing is empty. -/
def Variables.textOf (bindings : Variables) (name : List Char) : List Char :=
  (bindings.getD (String.ofList name) "").toList

/-- The variable has a text that is neither empty nor the word false. -/
def Variables.isSet (bindings : Variables) (name : List Char) : Bool :=
  let text := bindings.textOf name
  !text.isEmpty && text != "false".toList

/-- What the inside of a tag says. -/
inductive Tag where
  | name (text : List Char)
  | start (name : List Char) (inverted : Bool)
  | finish (name : List Char)
deriving DecidableEq, Repr

def Tag.ofInside (inside : List Char) : Tag :=
  match trim inside with
  | '#' :: rest => .start (trim rest) false
  | '^' :: rest => .start (trim rest) true
  | '/' :: rest => .finish (trim rest)
  | word => .name word

/-- A text cut at its first tag. -/
structure TagCut where
  before : List Char
  inside : List Char
  behind : List Char

/-- Cuts a text at its first tag, if it holds a whole one. -/
def cutAtTag? (text : List Char) : Option TagCut :=
  match cutAt? opening text with
  | none => none
  | some (before, rest) =>
    (cutAt? closing rest).map fun (inside, behind) => ⟨before, inside, behind⟩

theorem lengthCutAtTag {text : List Char} {cut : TagCut} (found : cutAtTag? text = some cut) :
    text.length = cut.before.length + 2 + cut.inside.length + 2 + cut.behind.length := by
  unfold cutAtTag? at found
  split at found
  · simp at found
  · rename_i before rest here
    cases inner : cutAt? closing rest with
    | none => simp [inner] at found
    | some parts =>
      obtain ⟨inside, behind⟩ := parts
      simp only [inner, Option.map_some, Option.some.injEq] at found
      have outerSize := lengthCutAt here
      have innerSize := lengthCutAt inner
      simp only [opening, closing, List.length_cons, List.length_nil] at outerSize innerSize
      rw [← found]
      simp only
      omega

/-- The body of a section that has begun, and the text behind its end. Sections of the same name
inside it are skipped. -/
def sectionEnd? (name : List Char) (depth : Nat) (text : List Char) :
    Option (List Char × List Char) :=
  match _found : cutAtTag? text with
  | none => none
  | some cut =>
    let skip (depth : Nat) := (sectionEnd? name depth cut.behind).map fun (body, rest) =>
      (cut.before ++ opening ++ cut.inside ++ closing ++ body, rest)
    match Tag.ofInside cut.inside with
    | .start other _ => skip (if other = name then depth + 1 else depth)
    | .finish other =>
      if other = name then if depth = 0 then some (cut.before, cut.behind) else skip (depth - 1)
      else skip depth
    | .name _ => skip depth
termination_by text.length
decreasing_by
  all_goals
    have size := lengthCutAtTag _found
    omega

/-- The body of a section and the text behind it. A section without an end takes all the text. -/
def cutSection (name text : List Char) : List Char × List Char :=
  (sectionEnd? name 0 text).getD (text, [])

theorem lengthSectionEnd {name text body rest : List Char} {depth : Nat}
    (found : sectionEnd? name depth text = some (body, rest)) :
    body.length + rest.length ≤ text.length := by
  induction size : text.length using Nat.strongRecOn generalizing text body depth with
  | _ count inductionHypothesis =>
    unfold sectionEnd? at found
    split at found
    · simp at found
    · rename_i cut here
      have whole := lengthCutAtTag here
      have skipped (next : Nat) (skips : (sectionEnd? name next cut.behind).map
          (fun parts => (cut.before ++ opening ++ cut.inside ++ closing ++ parts.1, parts.2)) =
            some (body, rest)) : body.length + rest.length ≤ count := by
        cases deeper : sectionEnd? name next cut.behind with
        | none => simp [deeper] at skips
        | some parts =>
          simp only [deeper, Option.map_some, Option.some.injEq, Prod.mk.injEq] at skips
          have same : sectionEnd? name next cut.behind = some (parts.1, rest) := by
            rw [deeper, ← skips.2]
          have inner := inductionHypothesis cut.behind.length (by omega) same rfl
          rw [← skips.1]
          simp only [List.length_append, opening, closing, List.length_cons, List.length_nil]
          omega
      split at found
      · exact skipped _ found
      · split at found
        · split at found
          · simp only [Option.some.injEq, Prod.mk.injEq] at found
            rw [← found.1, ← found.2]
            omega
          · exact skipped _ found
        · exact skipped _ found
      · exact skipped _ found

theorem lengthCutSection (name text : List Char) :
    (cutSection name text).1.length + (cutSection name text).2.length ≤ text.length := by
  unfold cutSection
  cases found : sectionEnd? name 0 text with
  | none => simp
  | some parts => simpa using lengthSectionEnd found

/-- Fills the variables into a template. -/
def render (bindings : Variables) (text : List Char) : List Char :=
  match _found : cutAtTag? text with
  | none => text
  | some cut =>
    cut.before ++
      match Tag.ofInside cut.inside with
      | .name name => bindings.textOf name ++ render bindings cut.behind
      | .finish _ => render bindings cut.behind
      | .start name inverted =>
        (if bindings.isSet name != inverted then render bindings (cutSection name cut.behind).1
          else []) ++ render bindings (cutSection name cut.behind).2
termination_by text.length
decreasing_by
  all_goals
    have size := lengthCutAtTag _found
    try have parts := lengthCutSection name cut.behind
    omega

end Tabletop.Reply
