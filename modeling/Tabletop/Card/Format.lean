/-
This file writes cards as JSON and reads them back.
-/

import Tabletop.Card
import Tabletop.Error
import Tabletop.Json.Decode
import Tabletop.Json.Printer
import Tabletop.Json.Reader

namespace Tabletop

/-- A set of names as a list. -/
def Json.ofNames (names : Std.ExtTreeSet String) : Json :=
  .strings names.toList

def Decoder.names : Decoder (Std.ExtTreeSet String) := fun json =>
  (Decoder.list .string json).map fun names => Std.ExtTreeSet.ofList names

def Decoder.instant : Decoder Instant
  | .string text => Instant.parse? text.toList
  | _ => none

def CardKind.decode : Decoder CardKind
  | .string text => all.find? (·.name == text)
  | _ => none

namespace CardCore

def fieldNames : List String :=
  ["name", "version", "abilities", "last_modified"]

def fields (core : CardCore) : List (String × Json) :=
  [("name", .string core.name), ("version", .nat core.version),
   ("abilities", .ofTable .string core.abilities),
   ("last_modified", .string core.lastModified.text)]

def ofRecord (now : Instant) (record : Record) : Option CardCore := do
  return { name := ← record.required "name" .string
           version := ← record.withDefault "version" .count 1
           abilities := ← record.withDefault "abilities" (.table .string) ∅
           lastModified := ← record.withDefault "last_modified" .instant now
           changes := [] }

end CardCore

namespace DeathSaving

def toJson (saving : DeathSaving) : Json :=
  .object [("success", .nat saving.success), ("failure", .nat saving.failure)]

def decode : Decoder DeathSaving := fun json => do
  let record ← json.record? ["success", "failure"]
  return ⟨← record.required "success" .count, ← record.required "failure" .count⟩

end DeathSaving

namespace SpellSlot

def toJson (slot : SpellSlot) : Json :=
  .object [("value", .int slot.value), ("max", .int slot.max)]

def decode : Decoder SpellSlot := fun json => do
  let record ← json.record? ["value", "max"]
  return ⟨← record.required "value" .word, ← record.required "max" .word⟩

end SpellSlot

namespace Card

/-- The fields of a kind of card besides the common ones. -/
def ownFieldNames : CardKind → List String
  | .general => ["skills"]
  | .coc => ["props", "basic", "skills", "meta"]
  | .dnd => ["props", "skills", "basic", "items", "meta"]

def ownFields : Card → List (String × Json)
  | .general card => [("skills", .ofTable .int card.skills)]
  | .coc card =>
    [("props", .ofTable .int card.props), ("basic", .ofTable .int card.basic),
     ("skills", .ofTable .int card.skills),
     ("meta", .object [("skill_growth", .ofNames card.growthMarks)])]
  | .dnd card =>
    [("props", .ofTable .int card.props), ("skills", .ofTable .int card.skills),
     ("basic", .ofTable .int card.basic), ("items", .ofTable .int card.items),
     ("meta", .object [("death_saving", card.deathSaving.toJson),
       ("spell_slots", .ofTable SpellSlot.toJson card.spellSlots),
       ("saving_proficiency", .ofNames card.savingProficiency)])]

/-- The card without its pending changes. -/
def toJson (card : Card) : Json :=
  .object ([("type", .string card.kind.name)] ++ card.core.fields ++ card.ownFields)

/-- The text in which cards are kept. -/
def text (card : Card) : String :=
  card.toJson.toLines

def values (record : Record) (name : String) : Option Values :=
  record.withDefault name (.table .word) ∅

def growthMarks : Decoder (Std.ExtTreeSet String) := fun json => do
  let record ← json.record? ["skill_growth"]
  record.withDefault "skill_growth" .names ∅

structure DndMeta where
  deathSaving : DeathSaving
  spellSlots : Table SpellSlot
  savingProficiency : Std.ExtTreeSet String

def dndMeta : Decoder DndMeta := fun json => do
  let record ← json.record? ["death_saving", "spell_slots", "saving_proficiency"]
  return ⟨← record.withDefault "death_saving" DeathSaving.decode ⟨0, 0⟩,
    ← record.withDefault "spell_slots" (.table SpellSlot.decode) ∅,
    ← record.withDefault "saving_proficiency" .names ∅⟩

/-- Reads a card of any version. A card without a time of change gets `now`. -/
def decode (now : Instant) : Decoder Card := fun json => do
  let tag ← json.objectRecord? ["type"]
  let kind ← tag.required "type" CardKind.decode
  let record ← json.objectRecord? (CardCore.fieldNames ++ ownFieldNames kind)
  let core ← CardCore.ofRecord now record
  match kind with
  | .general => return .general ⟨core, ← values record "skills"⟩
  | .coc =>
    return .coc
      { core := core
        props := ← values record "props"
        basic := ← values record "basic"
        skills := ← values record "skills"
        growthMarks := ← record.withDefault "meta" growthMarks ∅ }
  | .dnd =>
    let details ← record.withDefault "meta" dndMeta ⟨⟨0, 0⟩, ∅, ∅⟩
    return .dnd
      { core := core
        props := ← values record "props"
        skills := ← values record "skills"
        basic := ← values record "basic"
        items := ← values record "items"
        deathSaving := details.deathSaving
        spellSlots := details.spellSlots
        savingProficiency := details.savingProficiency }

/-- The name of cards in errors. -/
def thing : String := "card"

/-- Reads a card and brings it up to date. -/
def ofJson (now : Instant) (json : Json) : Except Error Card :=
  match decode now json with
  | none => .error .malformed
  | some card =>
    match card.migrate with
    | .ok (card, _) => .ok card
    | .error version => .error (.unknownVersion thing version.found cardVersion)

/-- Reads the text of a card. -/
def ofText (now : Instant) (text : String) : Except Error Card :=
  match Json.parse text.toList with
  | some json => ofJson now json
  | none => .error .malformed

end Card

end Tabletop
