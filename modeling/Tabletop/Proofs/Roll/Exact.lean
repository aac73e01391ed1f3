/-
This file proves that commands calculate exactly with the entries of a card whose numbers fit into 63 bits.

Each number that such a card shows fits into 63 bits as well, also if it follows from others. A command adds one
more number to it, or takes one from it, and the result fits into 64 bits.
-/

import Tabletop.Proofs.Card.Exact
import Tabletop.Proofs.Roll.Growth
import Tabletop.Roll.Edit
import Tabletop.Roll.Standard

namespace Tabletop

open Number

/-- The values of an entry fit into 63 bits. -/
structure Entry.Short (entry : Entry) : Prop where
  value : isShort entry.value = true
  baseValue : isShort entry.baseValue = true

theorem Entry.Short.ofStored {value : Int} (short : isShort value = true) (input key : String)
    (kind : EntryKind) : (Entry.stored input key value kind).Short :=
  ⟨short, short⟩

theorem Entry.Short.withDifficulty {entry : Entry} (base : isShort entry.baseValue = true)
    (difficulty : Difficulty) : (entry.withDifficulty difficulty).Short where
  value := isShort_tdiv (by cases difficulty <;> decide) base
  baseValue := base

theorem Entry.Short.temporary {value : Int} (short : isShort value = true) (input : String)
    (difficulty : Difficulty) : (Entry.temporary input value difficulty).Short where
  value := isShort_tdiv (by cases difficulty <;> decide) short
  baseValue := short

/-! Entries of cards -/

namespace CocCard

variable {card : CocCard} {input name key : String} {entry : Entry} {value : Int}

/-- The numbers that follow from others are no longer than these. -/
theorem Short.computed? (short : card.Short) (follows : card.computed? key = some value) :
    isShort value = true := by
  unfold CocCard.computed? at follows
  split at follows
  · obtain ⟨bulk, known, rfl⟩ := Option.map_eq_some_iff.1 follows
    apply isShort_buildOf
    rw [short.bulk known]
    exact isWord_add (short.getD .props "力量") (short.getD .props "体型")
  · have sum := isWord_add (short.getD .props "体质") (short.getD .props "体型")
    have near := tdiv_between (by decide : (0 : Int) < 10)
      (card.props.getD "体质" 0 + card.props.getD "体型" 0)
    change isWord (card.props.getD "体质" 0 + card.props.getD "体型" 0) = true at sum
    rw [isWord_iff_between] at sum
    rw [short.hitPoints follows, isShort_iff_between]
    omega
  · obtain ⟨power, kept, rfl⟩ := Option.map_eq_some_iff.1 follows
    exact isShort_tdiv (by decide) (short .props "意志" power kept)
  · unfold movement? at follows
    obtain ⟨_, _, follows⟩ := Option.bind_eq_some_iff.1 follows
    obtain ⟨_, _, follows⟩ := Option.bind_eq_some_iff.1 follows
    obtain ⟨_, _, follows⟩ := Option.bind_eq_some_iff.1 follows
    obtain rfl := Option.some.inj follows
    split
    · decide
    · split <;> decide
  · obtain ⟨dexterity, kept, rfl⟩ := Option.map_eq_some_iff.1 follows
    exact isShort_tdiv (by decide) (short .props "敏捷" dexterity kept)
  · exact short .props "教育" value follows
  · obtain ⟨pair, found, rfl⟩ := Option.map_eq_some_iff.1 follows
    have bases : ∀ pair ∈ skillBases, isShort pair.2 = true := by decide
    exact bases pair (List.mem_of_find?_eq_some found)

theorem Short.source (short : card.Short) (source : card.Source key value) : isShort value = true := by
  cases source with
  | kept part stands => exact short part key value stands
  | computed follows absent => exact short.computed? follows

theorem Short.entryOf? (short : card.Short) (read : card.entryOf? input = some entry) : entry.Short := by
  have base := short.source (entryOf?_source read)
  unfold CocCard.entryOf? at read
  split at read
  · cases read
    exact .withDifficulty base .normal
  · split at read
    · cases read
    · next difficulty rest _ _ =>
      obtain ⟨plain, found, rfl⟩ := Option.map_eq_some_iff.1 read
      exact .withDifficulty base difficulty

end CocCard

namespace DndCard

variable {card : DndCard} {input key : String} {entry : Entry}

theorem Short.stored? (short : card.Short) {part : DndPart} (read : card.stored? input key part = some entry) :
    entry.Short := by
  obtain ⟨⟨found, value⟩, there, rfl⟩ := Option.map_eq_some_iff.1 read
  exact .ofStored (short.part part found value (Table.lookup?_eq_some there).1) _ _ _

/-- A saving throw counts a modifier and the bonus for training at most once. -/
theorem Short.savingBonus (short : card.Short) (held : card.TrainingBounded) {prop : String} {score : Int}
    (kept : card.props[prop]? = some score) : isShort (card.savingBonus prop score) = true := by
  by_cases proficient : card.savingProficiency.contains prop = true
  · have training := held.exact (isWord_of_isShort short.level)
    have bonus := proficiencyBonus_between (by decide) (isShort_iff_between.1 short.level).2
    have modifier := short.modifierOf prop
    rw [DndCard.modifierOf, kept, Option.map_some, Option.getD_some] at modifier
    rw [training.saving prop score proficient, isShort_iff_between]
    omega
  · rw [DndCard.savingBonus, if_neg proficient]
    exact isShort_iff_between.2 (attributeModifier_between score)

theorem Short.postfixEntryOf? (short : card.Short) (held : card.TrainingBounded)
    (read : card.postfixEntryOf? input key = some entry) : entry.Short := by
  unfold DndCard.postfixEntryOf? at read
  obtain ⟨⟨name, kind⟩, _, read⟩ := Option.bind_eq_some_iff.1 read
  obtain ⟨score, kept, read⟩ := Option.bind_eq_some_iff.1 read
  obtain rfl := Option.some.inj read
  cases kind with
  | modifier =>
      have value := isShort_iff_between.2 (attributeModifier_between score)
      exact ⟨value, value⟩
  | saving =>
      have value := short.savingBonus held kept
      exact ⟨value, value⟩

theorem Short.skillEntry (short : card.Short) (held : card.TrainingBounded)
    (read : card.skillEntryOf? input key = some entry) : entry.Short := by
  obtain ⟨prop, _, base, value⟩ := short.skillEntryOf? held read
  have training := held.training key
  constructor
  · rw [value]
    exact short.skill held key prop
  · rw [base, isShort_iff_between]
    omega

theorem Short.entryOf? (short : card.Short) (held : card.TrainingBounded)
    (read : card.entryOf? input = some entry) : entry.Short := by
  unfold DndCard.entryOf? at read
  dsimp only at read
  rcases Option.or_eq_some_iff.1 read with item | ⟨_, read⟩
  · exact short.stored? item
  rcases Option.or_eq_some_iff.1 read with prop | ⟨_, read⟩
  · exact short.stored? prop
  rcases Option.or_eq_some_iff.1 read with skill | ⟨_, read⟩
  · exact short.skillEntry held skill
  rcases Option.or_eq_some_iff.1 read with basic | ⟨_, read⟩
  · exact short.stored? basic
  rcases Option.or_eq_some_iff.1 read with saving | ⟨_, read⟩
  · exact short.postfixEntryOf? held saving
  rcases Option.or_eq_some_iff.1 read with bonus | ⟨_, slot⟩
  · unfold proficiencyEntryOf? at bonus
    split at bonus
    · cases bonus
      have level := isShort_iff_between.1 short.level
      have between := proficiencyBonus_between (by decide) level.2
      have value : isShort card.proficiencyBonus = true := by
        rw [isShort_iff_between]
        omega
      exact ⟨value, value⟩
    · cases bonus
  · unfold slotEntryOf? at slot
    obtain ⟨slotLevel, _, slot⟩ := Option.bind_eq_some_iff.1 slot
    obtain ⟨kept, stands, slot⟩ := Option.bind_eq_some_iff.1 slot
    obtain rfl := Option.some.inj slot
    exact ⟨(short.slot slotLevel kept stands).1, (short.slot slotLevel kept stands).2⟩

end DndCard

namespace Card

variable {card : Card} {input : String} {entry : Entry}

theorem Short.entryOf? (short : card.Short) (held : card.Bounded) (read : card.entryOf? input = some entry) :
    entry.Short := by
  cases card with
  | general card =>
      obtain ⟨⟨key, value⟩, there, rfl⟩ := Option.map_eq_some_iff.1 read
      exact .ofStored (short key value (Table.lookup?_eq_some there).1) _ _ _
  | coc card => exact CocCard.Short.entryOf? short read
  | dnd card => exact DndCard.Short.entryOf? short held read

/-- What commands calculate with: an entry of the card, or a number below 63 bits in the command itself. -/
inductive Operand (card : Card) : Entry → Prop where
  | entry {input : String} {entry : Entry} (read : card.entryOf? input = some entry) : card.Operand entry
  | inline {value : Int} (short : isShort value = true) (input : String) (difficulty : Difficulty) :
      card.Operand (.temporary input value difficulty)

theorem Operand.short (operand : card.Operand entry) (short : card.Short) (held : card.Bounded) :
    entry.Short := by
  cases operand with
  | entry read => exact short.entryOf? held read
  | inline short input difficulty => exact .temporary short input difficulty

/-- What commands do with a number that fits into 63 bits is calculated without leaving 64 bits. -/
structure CommandsExact (card : Card) : Prop where
  edit : ∀ input amount, isShort amount = true →
    let old := (card.entryOf? input).map (·.value)
    EditRoll.requested .add old amount = old.getD 0 + amount ∧
      EditRoll.requested .subtract old amount = old.getD 0 - amount
  target : ∀ scene kind skill result entry, card.Operand entry → isShort skill.modifier = true →
    (StandardRoll.valueTest scene kind skill result entry).target = entry.value + skill.modifier
  bonus : ∀ scene expression skill, (∀ entry, skill.entry = some entry → card.Operand entry) →
    isShort skill.modifier = true →
    StandardRoll.rollSkill scene expression skill = do
      let added := (skill.entry.map StandardRoll.bonus).getD 0 + skill.modifier
      let result ← Step.dice (Notation.withBonus expression added) .random
      StandardRoll.addRoll
        ⟨some skill.name, result, (skill.number.map (StandardRoll.bonusTest scene skill result)).toList⟩
  loss : ∀ entry loss, card.Operand entry → isShort loss = true →
    wrap (entry.value - loss) = entry.value - loss
  growth : ∀ entry (check : GrowthCheck), card.Operand entry → check.old = entry.baseValue →
    isShort (check.gain.getD 0) = true → check.new = check.old + check.gain.getD 0

theorem Short.bonus (short : entry.Short) : isShort (StandardRoll.bonus entry) = true := by
  unfold StandardRoll.bonus
  split
  · exact isShort_iff_between.2 (attributeModifier_between entry.value)
  · exact short.value

theorem Short.commandsExact (short : card.Short) (held : card.Bounded) : card.CommandsExact where
  edit input amount fits := by
    have old : isShort (((card.entryOf? input).map (·.value)).getD 0) = true := by
      cases read : card.entryOf? input with
      | none => decide
      | some entry => exact (short.entryOf? held read).value
    exact ⟨wrap_of_isWord (isWord_add old fits), wrap_of_isWord (isWord_sub old fits)⟩
  target _ _ _ _ _ operand fits := wrap_of_isWord (isWord_add (operand.short short held).value fits)
  bonus scene expression skill operand fits := by
    have added : isShort ((skill.entry.map StandardRoll.bonus).getD 0) = true := by
      cases there : skill.entry with
      | none => decide
      | some entry => exact Short.bonus ((operand entry there).short short held)
    rw [StandardRoll.rollSkill, wrap_of_isWord (isWord_add added fits)]
  loss _ _ operand fits := wrap_of_isWord (isWord_sub (operand.short short held).value fits)
  growth entry check operand same fits := by
    have old := (operand.short short held).baseValue
    rw [← same] at old
    exact wrap_of_isWord (isWord_add old fits)

end Card

end Tabletop
