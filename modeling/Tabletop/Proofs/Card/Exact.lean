/-
This file proves which calculations with the numbers of a card are exact.

Numbers are added and multiplied with 64 bits. Some results always fit, because no command brings the mythos or
the training of a skill out of their bounds. The others fit as long as the numbers on the card fit into 63 bits.
-/

import Tabletop.Proofs.Card.Sanity
import Tabletop.Proofs.Card.Writes

namespace Tabletop

namespace Number

/-- The number fits into 63 bits. -/
def isShort (number : Int) : Bool :=
  isWord (2 * number)

variable {number left right : Int}

theorem isWord_iff_between : isWord number = true ↔
    -0x8000000000000000 ≤ number ∧ number ≤ 0x7FFFFFFFFFFFFFFF :=
  isWord_iff

theorem isShort_iff_between : isShort number = true ↔
    -0x4000000000000000 ≤ number ∧ number ≤ 0x3FFFFFFFFFFFFFFF := by
  rw [isShort, isWord_iff_between]
  omega

/-- Arithmetic is exact if the result fits. -/
theorem wrap_of_isWord (fits : isWord number = true) : wrap number = number :=
  wrap_of_fits (isWord_iff.1 fits).1 (isWord_iff.1 fits).2

theorem isWord_wrap (number : Int) : isWord (wrap number) = true := by
  have low : -(wordRange / 2 : Int) ≤ wrap number := Int.le_bmod (by decide)
  have high : wrap number < (wordRange + 1) / 2 := Int.bmod_lt (by decide)
  rw [isWord_iff_between]
  simp only [wordRange] at low high
  omega

theorem isWord_of_isShort (short : isShort number = true) : isWord number = true := by
  rw [isShort_iff_between] at short
  rw [isWord_iff_between]
  omega

theorem isWord_add (short : isShort left = true) (shortToo : isShort right = true) :
    isWord (left + right) = true := by
  rw [isShort_iff_between] at short shortToo
  rw [isWord_iff_between]
  omega

theorem isWord_sub (short : isShort left = true) (shortToo : isShort right = true) :
    isWord (left - right) = true := by
  rw [isShort_iff_between] at short shortToo
  rw [isWord_iff_between]
  omega

/-- Division that rounds to zero does not lead away from zero. -/
theorem tdiv_between_self {divisor : Int} (positive : 0 ≤ divisor) (number : Int) :
    min number 0 ≤ number.tdiv divisor ∧ number.tdiv divisor ≤ max number 0 := by
  rcases Int.le_total 0 number with above | below
  · have least := Int.tdiv_nonneg above positive
    have most := Int.tdiv_le_self divisor above
    omega
  · have opposite : number.tdiv divisor = -(-number).tdiv divisor := by rw [Int.neg_tdiv, Int.neg_neg]
    have least := Int.tdiv_nonneg (Int.neg_nonneg_of_nonpos below) positive
    have most := Int.tdiv_le_self divisor (Int.neg_nonneg_of_nonpos below)
    omega

theorem isShort_tdiv {divisor : Int} (positive : 0 ≤ divisor) (short : isShort number = true) :
    isShort (number.tdiv divisor) = true := by
  have between := tdiv_between_self positive number
  rw [isShort_iff_between] at short ⊢
  omega

/-- Division that rounds to zero is near the one that rounds down. -/
theorem tdiv_between {divisor : Int} (positive : 0 < divisor) (number : Int) :
    number / divisor ≤ number.tdiv divisor ∧ number.tdiv divisor ≤ number / divisor + 1 := by
  rw [Int.tdiv_eq_ediv, Int.sign_eq_one_of_pos positive]
  split <;> omega

end Number

open Number

/-! Numbers in their bounds -/

/-- A modifier is at most half of a word. -/
theorem attributeModifier_between (score : Int) :
    -0x4000000000000000 ≤ attributeModifier score ∧ attributeModifier score ≤ 0x3FFFFFFFFFFFFFFF := by
  have word := isWord_wrap (score - 10)
  rw [isWord_iff_between] at word
  rw [attributeModifier, Int.fdiv_eq_ediv_of_nonneg _ (by decide)]
  omega

namespace DndCard

/-- No skill is trained more than twice or less than not at all. -/
def TrainingBounded (card : DndCard) : Prop :=
  ∀ (skill : String) (training : Int), card.skills[skill]? = some training → 0 ≤ training ∧ training ≤ 2

variable {card after : DndCard} {now : Instant} {key : String} {value : Int}

theorem new_trainingBounded (name : String) (now : Instant) : (new name now).TrainingBounded := by
  intro skill training stands
  simp [new] at stands

theorem TrainingBounded.training (held : card.TrainingBounded) (skill : String) :
    0 ≤ card.skills.getD skill 0 ∧ card.skills.getD skill 0 ≤ 2 := by
  rw [Std.ExtTreeMap.getD_eq_getD_getElem?]
  cases stands : card.skills[skill]? with
  | none => exact ⟨by decide, by decide⟩
  | some training => exact held skill training stands

/-- Death saving throws leave the rest of a card as it is, but for the time of its last change. -/
theorem setDeathSaving_eq (card : DndCard) (now : Instant) (saving : DeathSaving) :
    ∃ core saved, card.setDeathSaving now saving = { card with core := core, deathSaving := saved } := by
  unfold setDeathSaving
  split
  · exact ⟨card.core, card.deathSaving, rfl⟩
  · exact ⟨_, saving, rfl⟩

/-- Every rule for writing a number keeps training in its bounds. -/
theorem EntryRule.trainingBounded {result : Except Fault (DndCard × Bool)} {changed : Bool}
    (rule : EntryRule card now value key result) (done : result = .ok (after, changed))
    (held : card.TrainingBounded) : after.TrainingBounded := by
  cases rule with
  | skill skill =>
      cases done
      intro name training stands
      change (card.skills.insert key _)[name]? = some training at stands
      rw [Table.get_insert] at stands
      split at stands
      · cases stands
        omega
      · exact held name training stands
  | saving names =>
      unfold setSaving at done
      dsimp only at done
      split at done
      · cases done
        exact held
      · cases done
        exact held
  | slot names kept =>
      unfold setSlot at done
      split at done
      · cases done
      · cases done
        exact held
  | _ =>
      cases done
      exact held

end DndCard

namespace Card

/-- The numbers that every command keeps in bounds are in them. -/
def Bounded : Card → Prop
  | .general _ => True
  | .coc card => card.SanityBounded
  | .dnd card => card.TrainingBounded

variable {card after : Card} {now : Instant}

theorem new_bounded (kind : CardKind) (name : String) (now : Instant) : (new kind name now).Bounded := by
  cases kind with
  | general => trivial
  | coc => exact CocCard.new_sanityBounded name now
  | dnd => exact DndCard.new_trainingBounded name now

theorem SameNumbers.bounded (same : SameNumbers card after) (held : card.Bounded) : after.Bounded := by
  cases same with
  | core _ core =>
      cases card with
      | general card => trivial
      | coc card => exact CocCard.SanityBounded.congr held rfl rfl rfl
      | dnd card => exact held
  | marks card core marks => exact CocCard.SanityBounded.congr held rfl rfl rfl

theorem write_bounded {call : CardWrite} {changed : Bool} (held : card.Bounded)
    (written : card.write now call = .ok (after, changed)) : after.Bounded := by
  by_cases entry : ∃ input value, call = .entry input value
  · obtain ⟨input, value, rfl⟩ := entry
    cases write_entry written with
    | general card => trivial
    | coc card => exact (card.setEntry_rule now input value).sanityBounded held
    | dnd done => exact (DndCard.setEntry_rule _ now input value).trainingBounded done held
  · exact (write_sameNumbers written fun input value is => entry ⟨input, value, is⟩).bounded held

/-- No writes lead out of the bounds. -/
theorem Writes.bounded (writes : card.Writes now after) (held : card.Bounded) : after.Bounded := by
  induction writes with
  | start => exact held
  | call before call written inductionHypothesis => exact write_bounded inductionHypothesis written
  | @saves dnd before saving inductionHypothesis =>
      obtain ⟨core, saved, same⟩ := dnd.setDeathSaving_eq now saving
      rw [same]
      exact inductionHypothesis

end Card

/-! Calculations -/

namespace CocCard

/-- Every number on the card fits into 63 bits. -/
def Short (card : CocCard) : Prop :=
  ∀ (part : CocPart) (key : String) (value : Int), (card.part part)[key]? = some value →
    isShort value = true

/-- What follows from the numbers on the card is calculated without leaving 64 bits. -/
structure Exact (card : CocCard) : Prop where
  hitPoints : ∀ limit, card.maxHitPoints? = some limit →
    limit = (card.props.getD "体质" 0 + card.props.getD "体型" 0).tdiv 10
  sanity : card.maxSanity = 99 - card.skills.getD mythos 0
  bulk : ∀ bulk, card.bulk? = some bulk → bulk = card.props.getD "力量" 0 + card.props.getD "体型" 0
  build : ∀ bulk, card.bulk? = some bulk → 204 < bulk →
    isWord (bulk - 205) = true ∧ isWord ((bulk - 205).tdiv 80 + 1) = true ∧ isWord (buildOf bulk) = true

variable {card : CocCard}

theorem Short.getD (short : card.Short) (part : CocPart) (key : String) :
    isShort ((card.part part).getD key 0) = true := by
  rw [Std.ExtTreeMap.getD_eq_getD_getElem?]
  cases stands : (card.part part)[key]? with
  | none => decide
  | some value => exact short part key value stands

theorem Short.bulk (short : card.Short) {bulk : Int} (known : card.bulk? = some bulk) :
    bulk = card.props.getD "力量" 0 + card.props.getD "体型" 0 := by
  have sum := wrap_of_isWord (isWord_add (short.getD .props "力量") (short.getD .props "体型"))
  refine Eq.trans ?_ sum
  simp only [CocCard.part, Std.ExtTreeMap.getD_eq_getD_getElem?]
  unfold bulk? at known
  split at known
  · cases known
  · cases known
    rfl

theorem Short.hitPoints (short : card.Short) {limit : Int} (known : card.maxHitPoints? = some limit) :
    limit = (card.props.getD "体质" 0 + card.props.getD "体型" 0).tdiv 10 := by
  have sum := wrap_of_isWord (isWord_add (short.getD .props "体质") (short.getD .props "体型"))
  unfold maxHitPoints? at known
  obtain ⟨constitution, kept, known⟩ := Option.bind_eq_some_iff.1 known
  obtain ⟨size, keptToo, known⟩ := Option.bind_eq_some_iff.1 known
  simp only [CocCard.part, Std.ExtTreeMap.getD_eq_getD_getElem?, kept, keptToo, Option.getD_some] at sum ⊢
  rw [sum] at known
  exact (Option.some.inj known).symm

/-- A build is far shorter than what it follows from. -/
theorem isShort_buildOf {bulk : Int} (fits : isWord bulk = true) : isShort (buildOf bulk) = true := by
  have near := tdiv_between (by decide : (0 : Int) < 80) (bulk - 205)
  rw [isWord_iff_between] at fits
  rw [isShort_iff_between, buildOf]
  omega

/-- The builds of heavy bodies are calculated in steps. -/
theorem build_isWord {bulk : Int} (fits : isWord bulk = true) (heavy : 204 < bulk) :
    isWord (bulk - 205) = true ∧ isWord ((bulk - 205).tdiv 80 + 1) = true ∧
      isWord (buildOf bulk) = true := by
  have near := tdiv_between (by decide : (0 : Int) < 80) (bulk - 205)
  refine ⟨?_, ?_, isWord_of_isShort (isShort_buildOf fits)⟩
  all_goals
    rw [isWord_iff_between] at fits ⊢
    omega

theorem Short.exact (short : card.Short) : card.Exact where
  hitPoints _ known := short.hitPoints known
  sanity := wrap_of_isWord (isWord_sub (by decide) (short.getD .skills mythos))
  bulk _ known := short.bulk known
  build bulk known heavy := by
    refine build_isWord ?_ heavy
    rw [short.bulk known]
    exact isWord_add (short.getD .props "力量") (short.getD .props "体型")

end CocCard

namespace DndCard

/-- Every number on the card fits into 63 bits. -/
structure Short (card : DndCard) : Prop where
  part : ∀ (part : DndPart) (key : String) (value : Int), (card.part part)[key]? = some value →
    isShort value = true
  slot : ∀ (level : String) (slot : SpellSlot), card.spellSlots[level]? = some slot →
    isShort slot.value = true ∧ isShort slot.max = true

/-- What training is worth is calculated without leaving 64 bits. -/
structure TrainingExact (card : DndCard) : Prop where
  bonus : isWord card.proficiencyBonus = true
  skill : ∀ skill, isWord (card.skills.getD skill 0 * card.proficiencyBonus) = true
  saving : ∀ prop score, card.savingProficiency.contains prop = true →
    card.savingBonus prop score = attributeModifier score + card.proficiencyBonus

/-- What follows from the numbers on the card is calculated without leaving 64 bits. -/
structure Exact (card : DndCard) : Prop extends card.TrainingExact where
  modifier : ∀ (prop : String) (score : Int), card.props[prop]? = some score →
    attributeModifier score = (score - 10).fdiv 2
  entry : ∀ input key entry, card.skillEntryOf? input key = some entry →
    ∃ prop, (key, prop) ∈ skillProps ∧
      entry.value = card.modifierOf prop + card.skills.getD key 0 * card.proficiencyBonus

variable {card : DndCard}

theorem proficiencyBonus_between {limit : Int} (positive : 1 ≤ limit) (below : card.basic.getD level 1 ≤ limit) :
    2 ≤ card.proficiencyBonus ∧ card.proficiencyBonus ≤ limit / 4 + 3 := by
  have near := tdiv_between (by decide : (0 : Int) < 4) (max (card.basic.getD level 1) 1 - 1)
  have least := Int.tdiv_nonneg (by omega : 0 ≤ max (card.basic.getD level 1) 1 - 1) (by decide : (0 : Int) ≤ 4)
  rw [proficiencyBonus]
  omega

/-- A skill counts the bonus for training at most twice. -/
theorem TrainingBounded.product (held : card.TrainingBounded) (positive : 0 ≤ card.proficiencyBonus)
    (skill : String) :
    0 ≤ card.skills.getD skill 0 * card.proficiencyBonus ∧
      card.skills.getD skill 0 * card.proficiencyBonus ≤ 2 * card.proficiencyBonus := by
  have training := held.training skill
  exact ⟨Int.mul_nonneg training.1 positive, Int.mul_le_mul_of_nonneg_right training.2 positive⟩

theorem TrainingBounded.exact (held : card.TrainingBounded) (fits : isWord (card.basic.getD level 1) = true) :
    card.TrainingExact := by
  rw [isWord_iff_between] at fits
  have bonus := proficiencyBonus_between (by decide) fits.2
  refine ⟨?_, fun skill => ?_, fun prop score proficient => ?_⟩
  · rw [isWord_iff_between]
    omega
  · have product := held.product (by omega) skill
    rw [isWord_iff_between]
    omega
  · have modifier := attributeModifier_between score
    rw [savingBonus, if_pos proficient]
    apply wrap_of_isWord
    rw [isWord_iff_between]
    omega

theorem Short.score (short : card.Short) {prop : String} {score : Int} (stands : card.props[prop]? = some score) :
    attributeModifier score = (score - 10).fdiv 2 := by
  rw [attributeModifier, wrap_of_isWord (isWord_sub (short.part .props prop score stands) (by decide))]

/-- The modifiers of short scores are shorter by one bit. -/
theorem Short.modifierOf (short : card.Short) (prop : String) :
    -0x2000000000000005 ≤ card.modifierOf prop ∧ card.modifierOf prop ≤ 0x1FFFFFFFFFFFFFFA := by
  unfold DndCard.modifierOf
  cases stands : card.props[prop]? with
  | none => exact ⟨by decide, by decide⟩
  | some score =>
      have fits := short.part .props prop score stands
      rw [isShort_iff_between] at fits
      rw [Option.map_some, Option.getD_some, short.score stands, Int.fdiv_eq_ediv_of_nonneg _ (by decide)]
      omega

theorem Short.level (short : card.Short) : isShort (card.basic.getD level 1) = true := by
  rw [Std.ExtTreeMap.getD_eq_getD_getElem?]
  cases stands : card.basic[DndCard.level]? with
  | none => decide
  | some value => exact short.part .basic _ value stands

/-- What a skill is worth fits into 63 bits again. -/
theorem Short.skill (short : card.Short) (held : card.TrainingBounded) (skill prop : String) :
    isShort (card.modifierOf prop + card.skills.getD skill 0 * card.proficiencyBonus) = true := by
  have level := isShort_iff_between.1 short.level
  have bonus := proficiencyBonus_between (by decide) level.2
  have modifier := short.modifierOf prop
  have product := held.product (by omega) skill
  rw [isShort_iff_between]
  omega

/-- What a skill is worth goes up by the bonus with each step of training. -/
theorem Short.skill_value (short : card.Short) (held : card.TrainingBounded) (input : String) {key prop : String}
    (listed : skillProps.find? (·.1 == key) = some (key, prop)) :
    ∃ entry, card.skillEntryOf? input key = some entry ∧ entry.baseValue = card.skills.getD key 0 ∧
      entry.value = card.modifierOf prop + card.skills.getD key 0 * card.proficiencyBonus := by
  have exact := held.exact (isWord_of_isShort short.level)
  unfold DndCard.skillEntryOf?
  rw [listed]
  refine ⟨_, rfl, rfl, ?_⟩
  change wrap (card.modifierOf prop + wrap _) = _
  rw [wrap_of_isWord (exact.skill key), wrap_of_isWord (isWord_of_isShort (short.skill held key prop))]

theorem Short.skillEntryOf? (short : card.Short) (held : card.TrainingBounded) {input key : String} {entry : Entry}
    (read : card.skillEntryOf? input key = some entry) :
    ∃ prop, (key, prop) ∈ skillProps ∧ entry.baseValue = card.skills.getD key 0 ∧
      entry.value = card.modifierOf prop + card.skills.getD key 0 * card.proficiencyBonus := by
  obtain ⟨⟨skill, prop⟩, found, _⟩ := Option.map_eq_some_iff.1 read
  have named := List.find?_some found
  obtain rfl := eq_of_beq named
  obtain ⟨_, again, value⟩ := short.skill_value held input found
  cases read.symm.trans again
  exact ⟨prop, List.mem_of_find?_eq_some found, value⟩

theorem Short.exact (short : card.Short) (held : card.TrainingBounded) : card.Exact where
  toTrainingExact := held.exact (isWord_of_isShort short.level)
  modifier _ _ stands := short.score stands
  entry _ _ _ read := by
    obtain ⟨prop, listed, _, value⟩ := short.skillEntryOf? held read
    exact ⟨prop, listed, value⟩

end DndCard

namespace Card

/-- Every number on the card fits into 63 bits. -/
def Short : Card → Prop
  | .general card => ∀ (key : String) (value : Int), card.skills[key]? = some value → isShort value = true
  | .coc card => card.Short
  | .dnd card => card.Short

/-- The calculations that fit into 64 bits on every card that commands lead to. -/
def BoundedExact : Card → Prop
  | .general _ => True
  | .coc card => card.maxSanity = 99 - card.skills.getD CocCard.mythos 0
  | .dnd card => isWord (card.basic.getD DndCard.level 1) = true → card.TrainingExact

/-- What follows from the numbers on the card is calculated without leaving 64 bits. -/
def Exact : Card → Prop
  | .general _ => True
  | .coc card => card.Exact
  | .dnd card => card.Exact

theorem Bounded.boundedExact {card : Card} (held : card.Bounded) : card.BoundedExact := by
  cases card with
  | general card => trivial
  | coc card => exact CocCard.MythosBounded.maxSanity (CocCard.SanityBounded.toMythosBounded held)
  | dnd card => exact fun fits => DndCard.TrainingBounded.exact held fits

theorem Short.exact {card : Card} (short : card.Short) (held : card.Bounded) : card.Exact := by
  cases card with
  | general card => trivial
  | coc card => exact CocCard.Short.exact short
  | dnd card => exact DndCard.Short.exact short held

end Card

end Tabletop
