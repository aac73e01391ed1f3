/-
This file proves that a card is read back from the JSON that is written for it, but for its pending changes.

Numbers have to fit into their bits, and the time of the last change has to lie in the calendar. Names and
texts are read back whatever they hold.
-/

import Tabletop.Card.Format
import Tabletop.Proofs.Card.Content
import Tabletop.Proofs.Instant.Text
import Tabletop.Proofs.Json.Decode

namespace Tabletop

open Json Number

/-! Parts -/

theorem Decoder.word_int {number : Int} (fits : isWord number = true) :
    word (.int number) = some number :=
  if_pos fits

/-- All numbers have 64 bits. -/
def Values.Fits (values : Values) : Prop :=
  ∀ (name : String) (value : Int), values[name]? = some value → isWord value = true

theorem Values.decode_toJson {values : Values} (fits : values.Fits) :
    Decoder.table .word (.ofTable .int values) = some values :=
  Decoder.table_ofTable fun name value kept => Decoder.word_int (fits name value kept)

theorem Decoder.names_ofNames (names : Std.ExtTreeSet String) :
    Decoder.names (.ofNames names) = some names := by
  unfold Decoder.names Json.ofNames
  rw [Decoder.list_strings, Option.map_some]
  refine congrArg some (Std.ExtTreeSet.ext_mem fun name => ?_)
  rw [Std.ExtTreeSet.mem_ofList, List.contains_iff_mem, Std.ExtTreeSet.mem_toList]

theorem Decoder.instant_ensures : instant.Ensures Instant.Valid := by
  intro json instant read
  cases json with
  | string text => exact Instant.parse?_valid read
  | _ => cases read

theorem CardKind.decode_name (kind : CardKind) : decode (.string kind.name) = some kind := by
  cases kind <;> rfl

/-- Both counters have 32 bits. -/
structure DeathSaving.Fits (saving : DeathSaving) : Prop where
  success : saving.success < countRange
  failure : saving.failure < countRange

theorem DeathSaving.decode_toJson {saving : DeathSaving} (fits : saving.Fits) :
    decode saving.toJson = some saving := by
  unfold decode toJson
  rw [record?_object (by rfl) (by decide)]
  refine Option.bind_eq_some_iff.2 ⟨_, rfl, ?_⟩
  refine Option.bind_eq_some_iff.2 ⟨_, Record.required_field rfl (Decoder.count_nat fits.success), ?_⟩
  exact Option.bind_eq_some_iff.2 ⟨_, Record.required_field rfl (Decoder.count_nat fits.failure), rfl⟩

/-- Both numbers of slots have 64 bits. -/
structure SpellSlot.Fits (slot : SpellSlot) : Prop where
  value : isWord slot.value = true
  max : isWord slot.max = true

theorem SpellSlot.decode_toJson {slot : SpellSlot} (fits : slot.Fits) :
    decode slot.toJson = some slot := by
  unfold decode toJson
  rw [record?_object (by rfl) (by decide)]
  refine Option.bind_eq_some_iff.2 ⟨_, rfl, ?_⟩
  refine Option.bind_eq_some_iff.2 ⟨_, Record.required_field rfl (Decoder.word_int fits.value), ?_⟩
  exact Option.bind_eq_some_iff.2 ⟨_, Record.required_field rfl (Decoder.word_int fits.max), rfl⟩

/-! Cards that can be written -/

/-- The core is of a version, and its last change lies in the calendar. -/
structure CardCore.Fits (core : CardCore) (version : Nat) : Prop where
  version : core.version = version
  lastModified : core.lastModified.Valid

structure GeneralCard.Fits (card : GeneralCard) (version : Nat) : Prop where
  core : card.core.Fits version
  skills : card.skills.Fits

structure CocCard.Fits (card : CocCard) (version : Nat) : Prop where
  core : card.core.Fits version
  props : card.props.Fits
  basic : card.basic.Fits
  skills : card.skills.Fits

structure DndCard.Fits (card : DndCard) (version : Nat) : Prop where
  core : card.core.Fits version
  props : card.props.Fits
  skills : card.skills.Fits
  basic : card.basic.Fits
  items : card.items.Fits
  deathSaving : card.deathSaving.Fits
  spellSlots : ∀ (level : String) (slot : SpellSlot), card.spellSlots[level]? = some slot → slot.Fits

namespace Card

/-- The card is of a version, and all that it holds can be written and read back. -/
def Fits (card : Card) (version : Nat) : Prop :=
  match card with
  | .general card => card.Fits version
  | .coc card => card.Fits version
  | .dnd card => card.Fits version

variable {card : Card} {version : Nat}

theorem Fits.core (fits : card.Fits version) : card.core.Fits version := by
  cases card with
  | general card => exact GeneralCard.Fits.core fits
  | coc card => exact CocCard.Fits.core fits
  | dnd card => exact DndCard.Fits.core fits

/-- What is kept besides the core fits with any core that fits. -/
theorem Fits.setCore {core : CardCore} {other : Nat} (fits : card.Fits version)
    (coreFits : core.Fits other) : (card.setCore core).Fits other := by
  cases card with
  | general card => exact { fits with core := coreFits }
  | coc card => exact { fits with core := coreFits }
  | dnd card => exact { fits with core := coreFits }

/-- The fields of a written card. -/
def fields (card : Card) : List (String × Json) :=
  [("type", .string card.kind.name)] ++ card.core.fields ++ card.ownFields

theorem fields_names (card : Card) :
    card.fields.map (·.1) = "type" :: (CardCore.fieldNames ++ ownFieldNames card.kind) := by
  cases card <;> rfl

theorem fields_nodup (card : Card) : (card.fields.map (·.1)).Nodup := by
  have different : ∀ kind, ("type" :: (CardCore.fieldNames ++ ownFieldNames kind)).Nodup := by
    intro kind
    cases kind <;> decide
  rw [fields_names]
  exact different card.kind

/-- The common part of a card is read back without its pending changes. -/
theorem ofRecord_fields (fits : card.core.Fits version) (small : version < countRange) (now : Instant) :
    CardCore.ofRecord now (field? card.fields) = some { card.core with changes := [] } := by
  have versionRead : Decoder.count (.nat card.core.version) = some card.core.version :=
    Decoder.count_nat (fits.version ▸ small)
  have abilities : Decoder.table .string (.ofTable .string card.core.abilities) =
      some card.core.abilities := Decoder.table_ofTable fun _ _ _ => rfl
  have lastModified : Decoder.instant (.string card.core.lastModified.text) =
      some card.core.lastModified := Instant.parse?_text fits.lastModified
  unfold CardCore.ofRecord
  refine Option.bind_eq_some_iff.2 ⟨_, Record.required_field rfl rfl, ?_⟩
  refine Option.bind_eq_some_iff.2 ⟨_, Record.withDefault_field rfl versionRead, ?_⟩
  refine Option.bind_eq_some_iff.2 ⟨_, Record.withDefault_field rfl abilities, ?_⟩
  refine Option.bind_eq_some_iff.2 ⟨_, Record.withDefault_field rfl lastModified, ?_⟩
  rfl

theorem decode_toJson (fits : card.Fits version) (small : version < countRange) (now : Instant) :
    decode now card.toJson = some card.withoutChanges := by
  have core := ofRecord_fields fits.core small now
  change decode now (.object card.fields) = _
  unfold decode
  rw [objectRecord?_object card.fields_nodup]
  refine Option.bind_eq_some_iff.2 ⟨_, rfl, ?_⟩
  refine Option.bind_eq_some_iff.2 ⟨_, Record.required_field rfl card.kind.decode_name, ?_⟩
  rw [objectRecord?_object card.fields_nodup]
  refine Option.bind_eq_some_iff.2 ⟨_, rfl, ?_⟩
  refine Option.bind_eq_some_iff.2 ⟨_, core, ?_⟩
  cases card with
  | general card =>
      obtain ⟨_, skills⟩ := fits
      exact Option.bind_eq_some_iff.2
        ⟨_, Record.withDefault_field rfl (Values.decode_toJson skills), rfl⟩
  | coc card =>
      obtain ⟨_, props, basic, skills⟩ := fits
      have marks : growthMarks (.object [("skill_growth", .ofNames card.growthMarks)]) =
          some card.growthMarks := by
        unfold growthMarks
        rw [record?_object (by rfl) (by decide)]
        refine Option.bind_eq_some_iff.2 ⟨_, rfl, ?_⟩
        exact Record.withDefault_field rfl (Decoder.names_ofNames _)
      refine Option.bind_eq_some_iff.2 ⟨_, Record.withDefault_field rfl (Values.decode_toJson props), ?_⟩
      refine Option.bind_eq_some_iff.2 ⟨_, Record.withDefault_field rfl (Values.decode_toJson basic), ?_⟩
      refine Option.bind_eq_some_iff.2 ⟨_, Record.withDefault_field rfl (Values.decode_toJson skills), ?_⟩
      exact Option.bind_eq_some_iff.2 ⟨_, Record.withDefault_field rfl marks, rfl⟩
  | dnd card =>
      obtain ⟨_, props, skills, basic, items, deathSaving, spellSlots⟩ := fits
      have slots : Decoder.table SpellSlot.decode (.ofTable SpellSlot.toJson card.spellSlots) =
          some card.spellSlots :=
        Decoder.table_ofTable fun level slot kept => SpellSlot.decode_toJson (spellSlots level slot kept)
      have details : dndMeta (.object [("death_saving", card.deathSaving.toJson),
          ("spell_slots", .ofTable SpellSlot.toJson card.spellSlots),
          ("saving_proficiency", .ofNames card.savingProficiency)]) =
            some ⟨card.deathSaving, card.spellSlots, card.savingProficiency⟩ := by
        unfold dndMeta
        rw [record?_object (by rfl) (by decide)]
        refine Option.bind_eq_some_iff.2 ⟨_, rfl, ?_⟩
        refine Option.bind_eq_some_iff.2
          ⟨_, Record.withDefault_field rfl (DeathSaving.decode_toJson deathSaving), ?_⟩
        refine Option.bind_eq_some_iff.2 ⟨_, Record.withDefault_field rfl slots, ?_⟩
        exact Option.bind_eq_some_iff.2
          ⟨_, Record.withDefault_field rfl (Decoder.names_ofNames _), rfl⟩
      refine Option.bind_eq_some_iff.2 ⟨_, Record.withDefault_field rfl details, ?_⟩
      refine Option.bind_eq_some_iff.2 ⟨_, Record.withDefault_field rfl (Values.decode_toJson props), ?_⟩
      refine Option.bind_eq_some_iff.2 ⟨_, Record.withDefault_field rfl (Values.decode_toJson skills), ?_⟩
      refine Option.bind_eq_some_iff.2 ⟨_, Record.withDefault_field rfl (Values.decode_toJson basic), ?_⟩
      exact Option.bind_eq_some_iff.2
        ⟨_, Record.withDefault_field rfl (Values.decode_toJson items), rfl⟩

end Card

end Tabletop
