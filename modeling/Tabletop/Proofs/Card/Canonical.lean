/-
This file proves what the names of one field of a card of Dungeons and Dragons have in common.

Names of one key read and write the same. An attribute with a postfix keeps the name that it was typed under: its names
read one number and train one saving throw, but entries and changes carry each name as their key.
-/

import Tabletop.Proofs.Card.Attributes

namespace Tabletop

open Text Number

/-- The entry as another name finds it. -/
def Entry.foundBy (input : String) (entry : Entry) : Entry :=
  { entry with input := input }

namespace DndCard

variable {card : DndCard} {left right name key prop : String} {kind : Postfix}

/-- The key in front of a postfix, and the postfix. -/
def postfixed? (name : String) : Option (String × Postfix) :=
  (splitPostfix? name).map fun (front, kind) => (synonyms.keyOf front, kind)

/-- Two names of one field: they have one key, or one postfix behind names of one key. -/
inductive SameField (left right : String) : Prop where
  | key (same : synonyms.keyOf left = synonyms.keyOf right)
  | postfixed {prop : String} {kind : Postfix} (leftNames : postfixed? left = some (prop, kind))
      (rightNames : postfixed? right = some (prop, kind))

/-- Two names read entries that differ in the names alone, and write the same. -/
structure Agree (card : DndCard) (now : Instant) (value : Int) (left right : String) : Prop where
  read : card.entryOf? right = (card.entryOf? left).map (.foundBy right)
  write : card.setEntry now right value = card.setEntry now left value

/-- Nothing is stored under a name in the parts that are searched before its postfix is cut off. -/
structure Unstored (card : DndCard) (name : String) : Prop where
  items : card.items.lookup? name = none
  props : card.props.lookup? name = none
  basic : card.basic.lookup? name = none

/-- The number of an attribute with a postfix. -/
def postfixNumber? (card : DndCard) (prop : String) (kind : Postfix) : Option Int :=
  card.props[prop]?.map fun score =>
    match kind with
    | .modifier => attributeModifier score
    | .saving => card.savingBonus prop score

/-! Keys with a postfix -/

/-- A key with a postfix has no rule of its own but that of a saving throw. -/
theorem rules_of_postfixed (names : postfixed? key = some (prop, kind)) :
    key ∉ propNames ∧ isSkill key = false ∧ key ∉ basicNames ∧ key ≠ proficiency ∧ spellLevel? key = none := by
  have props : ∀ name ∈ propNames, splitPostfix? name = none := by decide +kernel
  have skills : ∀ pair ∈ skillProps, splitPostfix? pair.1 = none := by decide +kernel
  have basics : ∀ name ∈ basicNames, splitPostfix? name = none := by decide +kernel
  have plain : splitPostfix? proficiency = none := by decide +kernel
  have cut (whole : splitPostfix? key = none) : False := by
    rw [postfixed?, whole] at names
    cases names
  refine ⟨fun member => cut (props key member), ?_, fun member => cut (basics key member), ?_, ?_⟩
  · refine Bool.eq_false_iff.2 fun skill => ?_
    obtain ⟨pair, member, same⟩ := List.any_eq_true.1 skill
    exact cut (eq_of_beq same ▸ skills pair member)
  · rintro rfl
    exact cut plain
  · unfold spellLevel?
    split
    · next digit text =>
        refine absurd ?_ cut
        rw [splitPostfix?, text]
        rfl
    · rfl

/-- A name with a postfix is no synonym, so it is a key as it is. -/
theorem keyOf_of_postfixed (names : postfixed? name = some (prop, kind)) : synonyms.keyOf name = name := by
  have whole : ∀ pair ∈ synonyms, splitPostfix? pair.1 = none := by decide +kernel
  unfold Synonyms.keyOf
  cases found : synonyms.find? fun pair => sameUpToAsciiCase pair.1 name with
  | none => rfl
  | some pair =>
      have same := List.find?_some found
      have congr := splitPostfix?_congr same
      obtain ⟨split, here, _⟩ := Option.map_eq_some_iff.1 names
      rw [whole pair (List.mem_of_find?_eq_some found), here] at congr
      cases congr

/-- Whether a name is that of a saving throw depends on the postfix and on the key in front of it. -/
theorem savingProp?_of_postfixed (names : postfixed? name = some (prop, kind)) :
    savingProp? name = if kind = .saving ∧ prop ∈ propNames then some prop else none := by
  obtain ⟨⟨front, kind⟩, here, same⟩ := Option.map_eq_some_iff.1 names
  cases same
  unfold savingProp?
  rw [here]
  cases kind with
  | modifier => rfl
  | saving => simp only [List.contains_iff_mem, true_and]

/-! What names with a postfix read and write -/

theorem postfixEntryOf?_eq (card : DndCard) (input key : String) :
    card.postfixEntryOf? input key = (postfixed? key).bind fun (prop, kind) =>
      (card.postfixNumber? prop kind).map fun number =>
        { Entry.computed input key number with modifier := .ofPostfix kind } := by
  unfold postfixEntryOf? postfixed?
  cases splitPostfix? key with
  | none => rfl
  | some split =>
      obtain ⟨front, kind⟩ := split
      change (card.props[synonyms.keyOf front]?.bind fun score => some _) = Option.map _ (Option.map _ _)
      cases card.props[synonyms.keyOf front]? <;> cases kind <;> rfl

theorem entryOf?_of_postfixed (names : postfixed? name = some (prop, kind)) (unstored : card.Unstored name) :
    card.entryOf? name = (card.postfixNumber? prop kind).map fun number =>
      { Entry.computed name name number with modifier := .ofPostfix kind } := by
  obtain ⟨_, notSkill, _, notProficiency, notSlot⟩ := rules_of_postfixed names
  have items : card.stored? name name .items = none := congrArg (Option.map _) unstored.items
  have props : card.stored? name name .props = none := congrArg (Option.map _) unstored.props
  have basic : card.stored? name name .basic = none := congrArg (Option.map _) unstored.basic
  have slot : card.slotEntryOf? name name = none := by
    rw [slotEntryOf?, notSlot]
    rfl
  unfold entryOf?
  rw [keyOf_of_postfixed names]
  dsimp only
  rw [items, props, skillEntryOf?_none notSkill, basic, postfixEntryOf?_eq, names, proficiencyEntryOf?,
    if_neg notProficiency, slot]
  simp only [Option.none_or, Option.or_none, Option.bind_some]

/-- A saving throw is set the same under every key, which only names the change. -/
theorem setSaving_change (card : DndCard) (now : Instant) (prop : String) (proficient : Bool) :
    ∃ saving change told, ∀ key, card.setSaving now key prop proficient =
      ({ card with
          savingProficiency := saving
          core := if told then card.core.push now key change else card.core }, told) := by
  unfold setSaving
  dsimp only
  split
  · exact ⟨card.savingProficiency, .growthMark false, false, fun key => rfl⟩
  · have flips (had : Int) : some had ≠ some (1 - had) := fun same => by
      have := Option.some.inj same
      omega
    simp only [CardCore.record, if_neg (flips _)]
    exact ⟨_, _, true, fun key => rfl⟩

theorem setEntry_of_postfixed (names : postfixed? name = some (prop, kind)) (now : Instant) (value : Int) :
    card.setEntry now name value =
      if kind = .saving ∧ prop ∈ propNames then .ok (card.setSaving now name prop (0 < value))
      else .ok (card.setItem now name value) := by
  obtain ⟨notProp, notSkill, notBasic, _, notSlot⟩ := rules_of_postfixed names
  unfold setEntry
  rw [keyOf_of_postfixed names]
  dsimp only
  rw [if_neg (mt List.contains_iff_mem.1 notProp), notSkill, if_neg Bool.false_ne_true,
    savingProp?_of_postfixed names]
  by_cases trains : kind = .saving ∧ prop ∈ propNames
  · rw [if_pos trains, if_pos trains]
  · have notHitPoints : name ≠ hitPoints := by
      rintro rfl
      exact notBasic List.mem_cons_self
    rw [if_neg trains, if_neg trains, notSlot]
    dsimp only
    rw [if_neg notHitPoints, if_neg fun basic => notBasic (List.mem_cons_of_mem _ (List.contains_iff_mem.1 basic))]

/-! Names of one key -/

/-- An entry tells the name that it was found by, and is otherwise that of the key. -/
theorem entryOf?_of_keyOf (card : DndCard) (same : synonyms.keyOf left = synonyms.keyOf right) :
    card.entryOf? right = (card.entryOf? left).map (.foundBy right) := by
  unfold entryOf?
  rw [same]
  generalize synonyms.keyOf right = key
  have stored (part : DndPart) : card.stored? right key part =
      (card.stored? left key part).map (.foundBy right) := by
    rw [stored?, stored?, Option.map_map]
    rfl
  have skill : card.skillEntryOf? right key =
      (card.skillEntryOf? left key).map (.foundBy right) := by
    rw [skillEntryOf?, skillEntryOf?, Option.map_map]
    rfl
  have postfixed : card.postfixEntryOf? right key =
      (card.postfixEntryOf? left key).map (.foundBy right) := by
    rw [postfixEntryOf?_eq, postfixEntryOf?_eq]
    cases postfixed? key with
    | none => rfl
    | some names =>
        rw [Option.bind_some, Option.bind_some, Option.map_map]
        rfl
  have bonus : card.proficiencyEntryOf? right key =
      (card.proficiencyEntryOf? left key).map (.foundBy right) := by
    unfold proficiencyEntryOf?
    split <;> rfl
  have slot : card.slotEntryOf? right key =
      (card.slotEntryOf? left key).map (.foundBy right) := by
    unfold slotEntryOf?
    cases spellLevel? key with
    | none => rfl
    | some level =>
        change (card.spellSlots[level]?.bind fun slot => some _) =
          (card.spellSlots[level]?.bind fun slot => some _).map _
        cases card.spellSlots[level]? <;> rfl
  simp only [Option.map_or, ← stored, ← skill, ← postfixed, ← bonus, ← slot]

theorem agree_of_keyOf (card : DndCard) (now : Instant) (value : Int)
    (same : synonyms.keyOf left = synonyms.keyOf right) : card.Agree now value left right where
  read := card.entryOf?_of_keyOf same
  write := by
    unfold setEntry
    rw [same]

/-! Names of one field -/

/-- Two names with one postfix read one number, unless something is stored under them, and train one saving throw, but
their entries and changes have each name for a key. Without a saving throw they write items of their own. -/
structure AgreeButForKey (card : DndCard) (now : Instant) (value : Int) (prop : String) (kind : Postfix)
    (left right : String) : Prop where
  names : ∀ name ∈ [left, right], postfixed? name = some (prop, kind)
  read : ∀ name ∈ [left, right], card.Unstored name → card.entryOf? name =
    (card.postfixNumber? prop kind).map fun number =>
      { Entry.computed name name number with modifier := .ofPostfix kind }
  train : kind = .saving ∧ prop ∈ propNames → ∃ saving change told, ∀ name ∈ [left, right],
    card.setEntry now name value = .ok
      ({ card with
          savingProficiency := saving
          core := if told then card.core.push now name change else card.core }, told)
  write : ¬(kind = .saving ∧ prop ∈ propNames) → ∀ name ∈ [left, right],
    card.setEntry now name value = .ok (card.setItem now name value)

theorem agreeButForKey_of_postfixed (card : DndCard) (now : Instant) (value : Int)
    (leftNames : postfixed? left = some (prop, kind)) (rightNames : postfixed? right = some (prop, kind)) :
    card.AgreeButForKey now value prop kind left right := by
  have names : ∀ name ∈ [left, right], postfixed? name = some (prop, kind) :=
    List.forall_mem_cons.2 ⟨leftNames, List.forall_mem_singleton.2 rightNames⟩
  refine ⟨names, fun name member => entryOf?_of_postfixed (names name member), fun trains => ?_,
    fun plain name member => ?_⟩
  · obtain ⟨saving, change, told, sets⟩ := card.setSaving_change now prop (0 < value)
    refine ⟨saving, change, told, fun name member => ?_⟩
    rw [setEntry_of_postfixed (names name member), if_pos trains, sets]
  · rw [setEntry_of_postfixed (names name member), if_neg plain]

/-- Names of one field agree, but different names with a postfix have different keys. -/
theorem sameField_agrees (card : DndCard) (now : Instant) (value : Int) (same : SameField left right) :
    card.Agree now value left right ∨ synonyms.keyOf left ≠ synonyms.keyOf right ∧
      ∃ prop kind, card.AgreeButForKey now value prop kind left right := by
  by_cases equal : synonyms.keyOf left = synonyms.keyOf right
  · exact .inl (card.agree_of_keyOf now value equal)
  cases same with
  | key same => exact absurd same equal
  | postfixed leftNames rightNames =>
      exact .inr ⟨equal, _, _, card.agreeButForKey_of_postfixed now value leftNames rightNames⟩

/-- A card with one attribute. -/
def strong : DndCard :=
  ((new "Tav" .epoch).put .epoch .props "力量" 16).1

theorem strong_sameField : SameField "力量豁免" "str豁免" := by
  have named : postfixed? "力量豁免" = some ("力量", .saving) := by decide +kernel
  have short : postfixed? "str豁免" = some ("力量", .saving) := by decide +kernel
  exact .postfixed named short

theorem sameField_agrees_strong :
    SameField "力量豁免" "str豁免" ∧ (strong.Agree .epoch 1 "力量豁免" "str豁免" ∨
      synonyms.keyOf "力量豁免" ≠ synonyms.keyOf "str豁免" ∧
        ∃ prop kind, strong.AgreeButForKey .epoch 1 prop kind "力量豁免" "str豁免") :=
  ⟨strong_sameField, strong.sameField_agrees .epoch 1 strong_sameField⟩

/-- Entries and changes of a saving throw have the name that was typed for a key, not that of the attribute. -/
theorem sameField_disagrees :
    SameField "力量豁免" "str豁免" ∧ ¬strong.Agree .epoch 1 "力量豁免" "str豁免" ∧
      (strong.entryOf? "力量豁免").map (·.key) = some "力量豁免" ∧
      (strong.entryOf? "str豁免").map (·.key) = some "str豁免" ∧
      (strong.setEntry .epoch "力量豁免" 1).toOption.map (fun written => written.1.core.changes.map (·.key)) =
        some ["力量", "力量豁免"] ∧
      (strong.setEntry .epoch "str豁免" 1).toOption.map (fun written => written.1.core.changes.map (·.key)) =
        some ["力量", "str豁免"] := by
  have canonical : (strong.entryOf? "力量豁免").map (·.key) = some "力量豁免" := by decide +kernel
  have typed : (strong.entryOf? "str豁免").map (·.key) = some "str豁免" := by decide +kernel
  refine ⟨strong_sameField, fun agree => ?_, canonical, typed, by decide +kernel, by decide +kernel⟩
  rw [agree.read, Option.map_map] at typed
  exact absurd (canonical.symm.trans typed) (by decide)

end DndCard

end Tabletop
