/-
This file proves by which rule a card writes a number under each key, and what the other numbers keep.
-/

import Tabletop.Card
import Tabletop.Proofs.Card.Names
import Tabletop.Proofs.Result

namespace Tabletop

namespace CocCard

theorem bounded_nonneg (limit : Option Int) (value : Int) : 0 ≤ bounded limit value := by
  cases limit with
  | none => exact Int.le_max_right _ _
  | some limit => exact Int.le_max_left _ _

theorem bounded_le {limit? : Option Int} {limit : Int} (limited : limit? = some limit) (value : Int) :
    bounded limit? value ≤ max 0 limit := by
  rw [limited]
  dsimp only [bounded]
  omega

/-- What writing a number under a key gives. Which rule holds depends on the key alone. -/
inductive EntryRule (card : CocCard) (now : Instant) (value : Int) :
    String → CocCard × Bool → Prop where
  | prop {key : String} (prop : key ∈ propNames) :
      EntryRule card now value key (card.put now .props key value)
  | hitPoints : EntryRule card now value hitPoints (card.setHitPoints now value)
  | magicPoints : EntryRule card now value magicPoints (card.setMagicPoints now value)
  | sanity : EntryRule card now value sanity (card.setSanity now value)
  | mythos : EntryRule card now value mythos (card.setMythos now value)
  | luck : EntryRule card now value luck (card.put now .basic luck value)
  | skill {key : String} (notProp : key ∉ propNames) (notBasic : key ∉ basicNames)
      (notMythos : key ≠ mythos) :
      EntryRule card now value key (card.put now .skills (card.skills.keyFor key) value)

theorem setEntry_rule (card : CocCard) (now : Instant) (input : String) (value : Int) :
    EntryRule card now value (synonyms.keyOf input) (card.setEntry now input value) := by
  unfold setEntry
  generalize synonyms.keyOf input = key
  dsimp only
  split
  · next prop => exact .prop (List.contains_iff_mem.1 prop)
  split
  · next same =>
    subst same
    exact .hitPoints
  split
  · next same =>
    subst same
    exact .magicPoints
  split
  · next same =>
    subst same
    exact .sanity
  split
  · next same =>
    subst same
    exact .mythos
  split
  · next same =>
    subst same
    exact .luck
  · next notProp notHitPoints notMagicPoints notSanity notMythos notLuck =>
    refine .skill (mt List.contains_iff_mem.2 notProp) ?_ notMythos
    simp only [basicNames, List.mem_cons, List.not_mem_nil, or_false, not_or]
    exact ⟨notHitPoints, notMagicPoints, notSanity, notLuck⟩

/-- After the mythos was written, sanity is written too if there is too much of it. -/
theorem setMythos_cases {card written : CocCard} {now : Instant} {value : Int}
    (wrote : (card.put now .skills mythos (bounded (some 99) value)).1 = written) :
    (∃ current, card.basic[sanity]? = some current ∧ written.maxSanity < current ∧
      (card.setMythos now value).1 = (written.setSanity now current).1) ∨
    ((∀ current, card.basic[sanity]? = some current → current ≤ written.maxSanity) ∧
      (card.setMythos now value).1 = written) := by
  subst wrote
  unfold setMythos
  dsimp only
  split
  · next current stands =>
    change card.basic[sanity]? = some current at stands
    split
    · next tooMuch => exact .inl ⟨current, stands, tooMuch, rfl⟩
    · next enough =>
      refine .inr ⟨fun other kept => ?_, rfl⟩
      obtain rfl := Option.some.inj (stands.symm.trans kept)
      exact Int.not_lt.1 enough
  · next absent =>
    change card.basic[sanity]? = none at absent
    refine .inr ⟨fun current kept => ?_, rfl⟩
    cases absent.symm.trans kept

end CocCard

namespace DndCard

/-- What writing a number under a key gives. Which rule holds depends on the key, and for spell slots on
whether the card has the level. -/
inductive EntryRule (card : DndCard) (now : Instant) (value : Int) :
    String → Except Fault (DndCard × Bool) → Prop where
  | prop {key : String} (prop : key ∈ propNames) :
      EntryRule card now value key (.ok (card.put now .props key value))
  | skill {key : String} (skill : isSkill key = true) :
      EntryRule card now value key (.ok (card.put now .skills key (max 0 (min value 2))))
  | saving {key prop : String} (names : savingProp? key = some prop) :
      EntryRule card now value key (.ok (card.setSaving now key prop (0 < value)))
  | hitPoints : EntryRule card now value hitPoints (.ok (card.setHitPoints now value))
  | basic {key : String} (basic : key ∈ [maxHitPoints, level, armorClass]) :
      EntryRule card now value key (.ok (card.put now .basic key value))
  | slot {key slotLevel : String} {slot : SpellSlot} (names : spellLevel? key = some slotLevel)
      (kept : card.spellSlots[slotLevel]? = some slot) :
      EntryRule card now value key (card.setSlot now key slotLevel slot value)
  | item {key : String} (notProp : key ∉ propNames) (notSkill : isSkill key = false)
      (notHitPoints : key ≠ hitPoints) (notBasic : key ∉ [maxHitPoints, level, armorClass]) :
      EntryRule card now value key (.ok (card.setItem now key value))

theorem setEntry_rule (card : DndCard) (now : Instant) (input : String) (value : Int) :
    EntryRule card now value (synonyms.keyOf input) (card.setEntry now input value) := by
  unfold setEntry
  generalize synonyms.keyOf input = key
  dsimp only
  split
  · next prop => exact .prop (List.contains_iff_mem.1 prop)
  split
  · next skill => exact .skill skill
  split
  · next names => exact .saving names
  split
  · next same =>
    subst same
    exact .hitPoints
  split
  · next basic => exact .basic (List.contains_iff_mem.1 basic)
  next notProp notSkill _ _ notHitPoints notBasic =>
  have item : EntryRule card now value key (.ok (card.setItem now key value)) :=
    .item (mt List.contains_iff_mem.2 notProp) (Bool.eq_false_iff.2 notSkill) notHitPoints
      (mt List.contains_iff_mem.2 notBasic)
  split
  · exact item
  · next slotLevel names =>
    split
    · next slot kept => exact .slot names kept
    · exact item

end DndCard

end Tabletop
