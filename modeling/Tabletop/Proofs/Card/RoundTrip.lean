/-
This file proves that cards are read back as they were written.

A card that is new or read fits what is written, and no call brings in a number or a time that does not.
So the card comes back with all that it holds but its pending changes, and it is not migrated.
-/

import Tabletop.Proofs.Card.Format
import Tabletop.Proofs.Card.Setters

namespace Tabletop

open Number

/-! What is written fits -/

/-- Numbers from zero to a word are words. -/
theorem isWord_of_between {number value : Int} (fits : isWord value = true) (low : 0 ≤ number)
    (high : number ≤ max 0 value) : isWord number = true := by
  have range := isWord_iff.1 fits
  have signs : minWord ≤ 0 ∧ 0 ≤ maxWord := by decide
  refine isWord_iff.2 ⟨?_, ?_⟩ <;> omega

theorem Values.Fits.insert {values : Values} {value : Int} (fits : values.Fits)
    (word : isWord value = true) (key : String) : Values.Fits (values.insert key value) := by
  intro name other kept
  rw [Table.get_insert] at kept
  split at kept
  · cases kept
    exact word
  · exact fits name other kept

theorem Values.empty_fits : Values.Fits ∅ := by
  intro name value kept
  simp at kept

theorem DeathSaving.none_fits : DeathSaving.Fits ⟨0, 0⟩ :=
  ⟨by decide, by decide⟩

section Core

variable {core : CardCore} {version : Nat} {now : Instant}

theorem CardCore.new_fits (name : String) (clock : now.Valid) : (new name now).Fits cardVersion :=
  ⟨rfl, clock⟩

theorem CardCore.Fits.push (fits : core.Fits version) (clock : now.Valid) (key : String)
    (value : ChangedValue) : (core.push now key value).Fits version :=
  ⟨fits.version, clock⟩

theorem CardCore.Fits.record (fits : core.Fits version) (clock : now.Valid) (key : String)
    (old : Option Int) (new : Int) : (core.record now key old new).Fits version := by
  unfold CardCore.record
  split
  · exact fits
  · exact fits.push clock key _

theorem CardCore.Fits.setAbility (fits : core.Fits version) (clock : now.Valid)
    (name expression : String) : (core.setAbility now name expression).1.Fits version := by
  unfold CardCore.setAbility
  dsimp only
  split
  · exact fits
  · exact ⟨fits.version, clock⟩

end Core

theorem GeneralCard.Fits.setEntry {card : GeneralCard} {version : Nat} {now : Instant} {value : Int}
    (fits : card.Fits version) (clock : now.Valid) (word : isWord value = true) (input : String) :
    (card.setEntry now input value).1.Fits version where
  core := fits.core.record clock _ _ _
  skills := fits.skills.insert word _

namespace CocCard

variable {card : CocCard} {version : Nat} {now : Instant} {value : Int} {key : String}

theorem isWord_bounded (limit : Option Int) (word : isWord value = true) :
    isWord (bounded limit value) = true := by
  refine isWord_of_between word (bounded_nonneg limit value) ?_
  cases limit with
  | none => exact Int.le_of_eq (Int.max_comm value 0)
  | some limit =>
      dsimp only [bounded]
      omega

theorem Fits.put (fits : card.Fits version) (clock : now.Valid) (word : isWord value = true)
    (part : CocPart) (key : String) : (card.put now part key value).1.Fits version := by
  have core := fits.core.record clock key (card.part part)[key]? value
  cases part with
  | props => exact { fits with core := core, props := fits.props.insert word key }
  | basic => exact { fits with core := core, basic := fits.basic.insert word key }
  | skills => exact { fits with core := core, skills := fits.skills.insert word key }

/-- Sanity that is lowered on the way was stored before. -/
theorem Fits.setMythos (fits : card.Fits version) (clock : now.Valid) (word : isWord value = true) :
    (card.setMythos now value).1.Fits version := by
  have written := fits.put clock (isWord_bounded (some 99) word) .skills mythos
  unfold CocCard.setMythos
  dsimp only
  split
  · next current stands =>
    split
    · exact written.put clock (isWord_bounded _ (written.basic sanity current stands)) .basic sanity
    · exact written
  · exact written

theorem EntryRule.fits {result : CocCard × Bool} (rule : EntryRule card now value key result)
    (fits : card.Fits version) (clock : now.Valid) (word : isWord value = true) :
    result.1.Fits version := by
  cases rule with
  | prop prop => exact fits.put clock word .props _
  | hitPoints => exact fits.put clock (isWord_bounded _ word) .basic _
  | magicPoints => exact fits.put clock (isWord_bounded _ word) .basic _
  | sanity => exact fits.put clock (isWord_bounded _ word) .basic _
  | mythos => exact fits.setMythos clock word
  | luck => exact fits.put clock word .basic _
  | skill notProp notBasic notMythos => exact fits.put clock word .skills _

theorem Fits.markGrowth (fits : card.Fits version) (clock : now.Valid) (key : String) :
    (card.markGrowth now key).1.Fits version := by
  unfold CocCard.markGrowth
  split
  · exact fits
  · exact { fits with core := fits.core.push clock key _ }

theorem Fits.clearMark (fits : card.Fits version) (clock : now.Valid) (key : String) :
    (card.clearMark now key).1.Fits version := by
  unfold CocCard.clearMark
  split
  · exact { fits with core := fits.core.push clock key _ }
  · exact fits

theorem Fits.clearGrowth (fits : card.Fits version) (clock : now.Valid) (keys : List String) :
    (card.clearGrowth now keys).1.Fits version := by
  apply List.foldlRecOn (motive := fun (result : CocCard × Bool) => result.1.Fits version)
  · exact fits
  · exact fun result kept key _ => kept.clearMark clock key

/-- Resources that leave the skills are words there. -/
theorem Fits.migrateFrom (fits : card.Fits version) (found : Nat) :
    (card.migrateFrom found).Fits version := by
  unfold CocCard.migrateFrom
  split
  · apply List.foldlRecOn (motive := fun (card : CocCard) => card.Fits version)
    · exact fits
    · intro card kept key _
      split
      · next value stands =>
        have skills : Values.Fits (card.skills.erase key) := by
          intro name other there
          rw [Table.get_erase] at there
          split at there
          · cases there
          · exact kept.skills name other there
        have basic : Values.Fits (card.basic.insertIfNew key value) := by
          intro name other there
          rw [Std.ExtTreeMap.getElem?_insertIfNew] at there
          split at there
          · cases there
            exact kept.skills key value stands
          · exact kept.basic name other there
        exact { kept with skills := skills, basic := basic }
      · exact kept
  · exact fits

end CocCard

namespace DndCard

variable {card : DndCard} {version : Nat} {now : Instant} {value : Int} {key : String}

theorem Fits.put (fits : card.Fits version) (clock : now.Valid) (word : isWord value = true)
    (part : DndPart) (key : String) : (card.put now part key value).1.Fits version := by
  have core := fits.core.record clock key (card.part part)[key]? value
  cases part with
  | props => exact { fits with core := core, props := fits.props.insert word key }
  | skills => exact { fits with core := core, skills := fits.skills.insert word key }
  | basic => exact { fits with core := core, basic := fits.basic.insert word key }
  | items => exact { fits with core := core, items := fits.items.insert word key }

theorem Fits.setSaving (fits : card.Fits version) (clock : now.Valid) (key prop : String)
    (proficient : Bool) : (card.setSaving now key prop proficient).1.Fits version := by
  unfold DndCard.setSaving
  dsimp only
  split
  · exact fits
  · exact { fits with core := fits.core.record clock key _ _ }

theorem Fits.setHitPoints (fits : card.Fits version) (clock : now.Valid) (word : isWord value = true) :
    (card.setHitPoints now value).1.Fits version := by
  change (card.put now .basic hitPoints (CocCard.bounded card.basic[maxHitPoints]? value)).1.Fits version
  exact fits.put clock (CocCard.isWord_bounded _ word) .basic hitPoints

theorem Fits.setSlot {slotLevel : String} {slot : SpellSlot} {after : DndCard} {changed : Bool}
    (fits : card.Fits version) (clock : now.Valid) (word : isWord value = true)
    (stood : card.spellSlots[slotLevel]? = some slot)
    (done : card.setSlot now key slotLevel slot value = .ok (after, changed)) : after.Fits version := by
  unfold DndCard.setSlot at done
  split at done
  · cases done
  · cases done
    refine { fits with core := fits.core.record clock key _ _, spellSlots := ?_ }
    intro level kept there
    dsimp only at there
    rw [Table.get_insert] at there
    split at there
    · cases there
      have left : isWord (max 0 (min value slot.max)) = true :=
        isWord_of_between word (by omega) (by omega)
      exact ⟨left, (fits.spellSlots slotLevel slot stood).max⟩
    · exact fits.spellSlots level kept there

theorem EntryRule.fits {result : Except Fault (DndCard × Bool)} {after : DndCard} {changed : Bool}
    (rule : EntryRule card now value key result) (fits : card.Fits version) (clock : now.Valid)
    (word : isWord value = true) (done : result = .ok (after, changed)) : after.Fits version := by
  cases rule with
  | prop prop =>
      cases done
      exact fits.put clock word .props _
  | skill skill =>
      cases done
      have training : isWord (max 0 (min value 2)) = true :=
        isWord_of_between word (by omega) (by omega)
      exact fits.put clock training .skills _
  | @saving _ prop names =>
      have kept := fits.setSaving clock key prop (decide (0 < value))
      rwa [Except.ok.inj done] at kept
  | hitPoints =>
      cases done
      exact fits.setHitPoints clock word
  | basic basic =>
      cases done
      exact fits.put clock word .basic _
  | slot names kept => exact fits.setSlot clock word kept done
  | item notProp notSkill notHitPoints notBasic =>
      cases done
      exact fits.put clock word .items _

theorem Fits.setDeathSaving {saving : DeathSaving} (fits : card.Fits version) (clock : now.Valid)
    (small : saving.Fits) : (card.setDeathSaving now saving).Fits version := by
  unfold DndCard.setDeathSaving
  split
  · exact fits
  · exact { fits with core := ⟨fits.core.version, clock⟩, deathSaving := small }

end DndCard

/-- A number that a call writes has 64 bits. -/
def CardWrite.Fits : CardWrite → Prop
  | .entry _ value => isWord value = true
  | _ => True

namespace Card

variable {card after : Card} {version : Nat} {now : Instant}

theorem new_fits (kind : CardKind) (name : String) (clock : now.Valid) :
    (new kind name now).Fits cardVersion := by
  have core := CardCore.new_fits name clock
  have none := Values.empty_fits
  cases kind with
  | general => exact GeneralCard.Fits.mk core none
  | coc => exact CocCard.Fits.mk core none none none
  | dnd =>
      have slots (level : String) (slot : SpellSlot)
          (kept : (∅ : Table SpellSlot)[level]? = some slot) : slot.Fits := by simp at kept
      exact DndCard.Fits.mk core none none none none DeathSaving.none_fits slots

/-- No call brings a card out of what is written. -/
theorem Fits.write {call : CardWrite} {changed : Bool} (fits : card.Fits version) (clock : now.Valid)
    (word : call.Fits) (written : card.write now call = .ok (after, changed)) : after.Fits version := by
  cases call with
  | entry input value =>
      cases card with
      | general card =>
          cases written
          exact GeneralCard.Fits.setEntry fits clock word input
      | coc card =>
          cases written
          exact (card.setEntry_rule now input value).fits fits clock word
      | dnd card =>
          obtain ⟨⟨inner, told⟩, done, same⟩ := map_eq_ok.1 written
          cases same
          exact (card.setEntry_rule now input value).fits fits clock word done
  | ability name expression =>
      cases written
      exact fits.setCore (fits.core.setAbility clock name expression)
  | mark key =>
      cases card with
      | coc card =>
          cases written
          exact CocCard.Fits.markGrowth fits clock key
      | general card =>
          cases written
          exact fits
      | dnd card =>
          cases written
          exact fits
  | clear keys =>
      cases card with
      | coc card =>
          cases written
          exact CocCard.Fits.clearGrowth fits clock keys
      | general card =>
          cases written
          exact fits
      | dnd card =>
          cases written
          exact fits

/-! What is read fits -/

end Card

theorem Decoder.word_ensures : word.Ensures fun value => isWord value = true := by
  intro json value read
  unfold word at read
  split at read
  · split at read
    · next fits =>
      cases read
      exact fits
    · cases read
  · cases read

theorem DeathSaving.decode_ensures : Decoder.Ensures decode Fits := by
  intro json saving read
  obtain ⟨record, -, read⟩ := Option.bind_eq_some_iff.1 read
  obtain ⟨success, isSuccess, read⟩ := Option.bind_eq_some_iff.1 read
  obtain ⟨failure, isFailure, read⟩ := Option.bind_eq_some_iff.1 read
  cases read
  exact ⟨Decoder.count_ensures.required isSuccess, Decoder.count_ensures.required isFailure⟩

theorem SpellSlot.decode_ensures : Decoder.Ensures decode Fits := by
  intro json slot read
  obtain ⟨record, -, read⟩ := Option.bind_eq_some_iff.1 read
  obtain ⟨value, isValue, read⟩ := Option.bind_eq_some_iff.1 read
  obtain ⟨most, isMost, read⟩ := Option.bind_eq_some_iff.1 read
  cases read
  exact ⟨Decoder.word_ensures.required isValue, Decoder.word_ensures.required isMost⟩

namespace Card

variable {card after : Card} {version : Nat} {now : Instant}

theorem values_fits {record : Record} {name : String} {read : Values}
    (found : values record name = some read) : read.Fits :=
  Decoder.word_ensures.table.withDefault Values.empty_fits found

theorem dndMeta_ensures : dndMeta.Ensures fun details => details.deathSaving.Fits ∧
    ∀ (level : String) (slot : SpellSlot), details.spellSlots[level]? = some slot → slot.Fits := by
  intro json details read
  obtain ⟨record, -, read⟩ := Option.bind_eq_some_iff.1 read
  obtain ⟨saving, isSaving, read⟩ := Option.bind_eq_some_iff.1 read
  obtain ⟨slots, areSlots, read⟩ := Option.bind_eq_some_iff.1 read
  obtain ⟨proficiency, -, read⟩ := Option.bind_eq_some_iff.1 read
  cases read
  refine ⟨DeathSaving.decode_ensures.withDefault DeathSaving.none_fits isSaving, ?_⟩
  exact SpellSlot.decode_ensures.table.withDefault (fun level slot kept => by simp at kept) areSlots

/-- The changes of a card that is read are none. -/
theorem ofRecord_fits {record : Record} {core : CardCore} (clock : now.Valid)
    (read : CardCore.ofRecord now record = some core) :
    core.Fits core.version ∧ core.changes = [] := by
  obtain ⟨name, -, read⟩ := Option.bind_eq_some_iff.1 read
  obtain ⟨version, -, read⟩ := Option.bind_eq_some_iff.1 read
  obtain ⟨abilities, -, read⟩ := Option.bind_eq_some_iff.1 read
  obtain ⟨lastModified, isTime, read⟩ := Option.bind_eq_some_iff.1 read
  cases read
  exact ⟨⟨rfl, Decoder.instant_ensures.withDefault clock isTime⟩, rfl⟩

theorem decode_ensures (clock : now.Valid) :
    (decode now).Ensures fun card => card.Fits card.core.version := by
  intro json card read
  obtain ⟨tag, -, read⟩ := Option.bind_eq_some_iff.1 read
  obtain ⟨kind, -, read⟩ := Option.bind_eq_some_iff.1 read
  obtain ⟨record, -, read⟩ := Option.bind_eq_some_iff.1 read
  obtain ⟨core, isCore, read⟩ := Option.bind_eq_some_iff.1 read
  have coreFits := (ofRecord_fits clock isCore).1
  cases kind with
  | general =>
      obtain ⟨skills, areSkills, read⟩ := Option.bind_eq_some_iff.1 read
      cases read
      exact GeneralCard.Fits.mk coreFits (values_fits areSkills)
  | coc =>
      obtain ⟨props, areProps, read⟩ := Option.bind_eq_some_iff.1 read
      obtain ⟨basic, areBasic, read⟩ := Option.bind_eq_some_iff.1 read
      obtain ⟨skills, areSkills, read⟩ := Option.bind_eq_some_iff.1 read
      obtain ⟨marks, -, read⟩ := Option.bind_eq_some_iff.1 read
      cases read
      exact CocCard.Fits.mk coreFits (values_fits areProps) (values_fits areBasic) (values_fits areSkills)
  | dnd =>
      obtain ⟨details, areDetails, read⟩ := Option.bind_eq_some_iff.1 read
      obtain ⟨props, areProps, read⟩ := Option.bind_eq_some_iff.1 read
      obtain ⟨skills, areSkills, read⟩ := Option.bind_eq_some_iff.1 read
      obtain ⟨basic, areBasic, read⟩ := Option.bind_eq_some_iff.1 read
      obtain ⟨items, areItems, read⟩ := Option.bind_eq_some_iff.1 read
      cases read
      obtain ⟨saving, slots⟩ := dndMeta_ensures.withDefault
        ⟨DeathSaving.none_fits, fun level slot kept => by simp at kept⟩ areDetails
      exact DndCard.Fits.mk coreFits (values_fits areProps) (values_fits areSkills)
        (values_fits areBasic) (values_fits areItems) saving slots

/-- A migration brings a card that fits to the current version. -/
theorem Fits.migrate {changed : Bool} (fits : card.Fits card.core.version)
    (done : card.migrate = .ok (after, changed)) : after.Fits cardVersion := by
  unfold Card.migrate at done
  dsimp only at done
  split at done
  · cases done
  split at done
  · next current =>
    cases done
    exact current ▸ fits
  · cases done
    cases card with
    | general card => exact fits.setCore ⟨rfl, fits.core.lastModified⟩
    | coc card =>
        have kept : (Card.coc (card.migrateFrom _)).Fits _ := CocCard.Fits.migrateFrom fits card.core.version
        exact kept.setCore ⟨rfl, kept.core.lastModified⟩
    | dnd card =>
        have kept : (Card.dnd (card.migrateFrom card.core.version)).Fits card.core.version := by
          unfold DndCard.migrateFrom
          split
          · exact { fits with deathSaving := DeathSaving.none_fits }
          · exact fits
        exact kept.setCore ⟨rfl, kept.core.lastModified⟩

/-- A card that is read is of the current version and fits what is written. -/
theorem ofJson_fits {json : Json} (clock : now.Valid) (read : ofJson now json = .ok card) :
    card.Fits cardVersion := by
  unfold ofJson at read
  split at read
  · cases read
  · next before decoded =>
    split at read
    · next migrated =>
      cases read
      exact (decode_ensures clock json before decoded).migrate migrated
    · cases read

/-! Cards in use -/

/-- The cards that are new or read, and what calls and death saving throws make of them. The clock that
gives them their times stays within the calendar, and numbers have their bits. -/
inductive Reached : Card → Prop
  | new {now : Instant} (clock : now.Valid) (kind : CardKind) (name : String) :
      Reached (.new kind name now)
  | read {now : Instant} {json : Json} {card : Card} (clock : now.Valid)
      (read : ofJson now json = .ok card) : Reached card
  | write {now : Instant} {card after : Card} {call : CardWrite} {changed : Bool} (clock : now.Valid)
      (reached : Reached card) (word : call.Fits) (written : card.write now call = .ok (after, changed)) :
      Reached after
  | saves {now : Instant} {card : DndCard} {saving : DeathSaving} (clock : now.Valid)
      (reached : Reached (.dnd card)) (small : saving.Fits) :
      Reached (.dnd (card.setDeathSaving now saving))

theorem Reached.fits (reached : Reached card) : card.Fits cardVersion := by
  induction reached with
  | new clock kind name => exact new_fits kind name clock
  | read clock read => exact ofJson_fits clock read
  | write clock _ word written inductionHypothesis => exact inductionHypothesis.write clock word written
  | saves clock _ small inductionHypothesis =>
      exact DndCard.Fits.setDeathSaving inductionHypothesis clock small

/-- A card of the current version is not migrated. -/
theorem Fits.migrate_current (fits : card.Fits cardVersion) : card.migrate = .ok (card, false) := by
  unfold Card.migrate
  dsimp only
  rw [fits.core.version, if_neg (by decide), if_pos rfl]

/-- Whatever is done with a card, it is read back as it was written: with all that it holds but its pending
changes, and without a migration. -/
theorem Reached.toJson_restores (reached : Reached card) (later : Instant) :
    decode later card.toJson = some card.withoutChanges ∧
      card.withoutChanges.migrate = .ok (card.withoutChanges, false) ∧
      ofJson later card.toJson = .ok card.withoutChanges := by
  have fits := reached.fits
  have back := decode_toJson fits (by decide) later
  have kept : card.withoutChanges.Fits cardVersion :=
    fits.setCore ⟨fits.core.version, fits.core.lastModified⟩
  have current := kept.migrate_current
  refine ⟨back, current, ?_⟩
  unfold ofJson
  simp only [back, current]

/-- An investigator whose name has a quotation mark and a line break, with the smallest number under an
empty name. -/
def unnamedSkill : Card :=
  .coc ((CocCard.new "\"\n" .epoch).setEntry .epoch "" minWord).1

theorem toJson_restores_unnamedSkill :
    Reached unnamedSkill ∧ unnamedSkill.withoutChanges ≠ unnamedSkill ∧
      decode .epoch unnamedSkill.toJson = some unnamedSkill.withoutChanges ∧
      unnamedSkill.withoutChanges.migrate = .ok (unnamedSkill.withoutChanges, false) ∧
      ofJson .epoch unnamedSkill.toJson = .ok unnamedSkill.withoutChanges := by
  have word : CardWrite.Fits (.entry "" minWord) := (by decide : isWord minWord = true)
  have reached : Reached unnamedSkill :=
    .write Instant.epoch_valid (.new Instant.epoch_valid .coc "\"\n") word rfl
  have pending : unnamedSkill.core.changes ≠ [] := by decide +kernel
  refine ⟨reached, fun same => pending ?_, reached.toJson_restores .epoch⟩
  rw [← same, withoutChanges, setCore_core]

end Card

end Tabletop
