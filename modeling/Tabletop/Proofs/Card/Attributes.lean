/-
This file proves what names read on a card of Dungeons and Dragons on which setters alone wrote numbers.

Keys with a rule of their own stand in the part of the card that the rule writes to, and all others among the items.
So a name reads what stands where it is written.
-/

import Tabletop.Proofs.Card.Exact
import Tabletop.Proofs.Card.ReadBack

namespace Tabletop

open Text Number

/-! Names up to case -/

namespace Text

theorem asciiLower_reverse (text : List Char) : asciiLower text.reverse = (asciiLower text).reverse :=
  List.map_reverse

/-- A mark without letters stands at the start of a text in every case of the text. -/
theorem after?_asciiLower {mark left right : List Char} (caseless : ∀ char ∈ mark, char.isAlpha = false)
    (same : asciiLower left = asciiLower right) :
    (after? mark left).map asciiLower = (after? mark right).map asciiLower := by
  induction mark generalizing left right with
  | nil => exact congrArg some same
  | cons expected mark inductionHypothesis =>
      have mine := caseless expected List.mem_cons_self
      have others := fun char member => caseless char (List.mem_cons_of_mem expected member)
      cases left with
      | nil =>
          rw [List.map_eq_nil_iff.1 same.symm]
      | cons char left =>
          cases right with
          | nil => cases same
          | cons other right =>
              obtain ⟨first, rest⟩ := List.cons.inj same
              have heads : expected = char ↔ expected = other := by
                constructor
                · rintro rfl
                  exact toLower_inj_of_caseless mine first
                · rintro rfl
                  exact toLower_inj_of_caseless mine first.symm
              unfold after?
              by_cases here : expected = char
              · rw [if_pos here, if_pos (heads.1 here)]
                exact inductionHypothesis others rest
              · rw [if_neg here, if_neg (mt heads.2 here)]

/-- A mark without letters stands at the end of a text in every case of the text. -/
theorem before?_asciiLower {mark left right : List Char} (caseless : ∀ char ∈ mark, char.isAlpha = false)
    (same : asciiLower left = asciiLower right) :
    (before? mark left).map asciiLower = (before? mark right).map asciiLower := by
  have turned : (after? mark.reverse left.reverse).map asciiLower =
      (after? mark.reverse right.reverse).map asciiLower :=
    after?_asciiLower (fun char member => caseless char (List.mem_reverse.1 member))
      (by rw [asciiLower_reverse, same, asciiLower_reverse])
  have swap (found : Option (List Char)) :
      (found.map List.reverse).map asciiLower = (found.map asciiLower).map List.reverse := by
    cases found with
    | none => rfl
    | some text => exact congrArg some (asciiLower_reverse text)
  unfold before?
  rw [swap, turned, swap]

end Text

/-- Names that differ in case alone stand for keys that differ in case alone. -/
theorem Synonyms.keyOf_congr (synonyms : Synonyms) {left right : String}
    (same : sameUpToAsciiCase left right = true) :
    sameUpToAsciiCase (synonyms.keyOf left) (synonyms.keyOf right) = true := by
  have lower := eq_of_beq same
  have tests : (fun pair : String × String => sameUpToAsciiCase pair.1 left) =
      fun pair => sameUpToAsciiCase pair.1 right := by
    funext pair
    rw [sameUpToAsciiCase, lower]
    rfl
  unfold keyOf
  rw [tests]
  cases synonyms.find? fun pair => sameUpToAsciiCase pair.1 right with
  | some pair => exact sameUpToAsciiCase_refl _
  | none => exact same

namespace DndCard

variable {card after : DndCard} {now : Instant} {input key prop name : String} {value : Int} {changed : Bool}

theorem propNames_caseless : ∀ name ∈ propNames, isCaseless name = true := by decide +kernel

/-- Names that differ in case alone have the same postfix, behind names that differ in case alone. -/
theorem splitPostfix?_congr {left right : String} (same : sameUpToAsciiCase left right = true) :
    Option.Rel (fun left right => sameUpToAsciiCase left.1 right.1 = true ∧ left.2 = right.2)
      (splitPostfix? left) (splitPostfix? right) := by
  have lower := eq_of_beq same
  have modifiers := before?_asciiLower (isCaseless_iff.1 (by decide : isCaseless "调整" = true)) lower
  have savings := before?_asciiLower (isCaseless_iff.1 (by decide : isCaseless "豁免" = true)) lower
  have names {text other : List Char} (lower : asciiLower other = asciiLower text) :
      sameUpToAsciiCase (String.ofList text) (String.ofList other) = true := by
    unfold sameUpToAsciiCase
    rw [String.toList_ofList, String.toList_ofList, lower]
    exact beq_self_eq_true _
  unfold splitPostfix?
  cases leftModifier : before? "调整".toList left.toList with
  | some text =>
      rw [leftModifier] at modifiers
      obtain ⟨other, rightModifier, lower⟩ := Option.map_eq_some_iff.1 modifiers.symm
      rw [rightModifier]
      exact .some ⟨names lower, rfl⟩
  | none =>
      rw [leftModifier] at modifiers
      rw [Option.map_eq_none_iff.1 modifiers.symm]
      cases leftSaving : before? "豁免".toList left.toList with
      | none =>
          rw [leftSaving] at savings
          rw [Option.map_eq_none_iff.1 savings.symm]
          exact .none
      | some text =>
          rw [leftSaving] at savings
          obtain ⟨other, rightSaving, lower⟩ := Option.map_eq_some_iff.1 savings.symm
          rw [rightSaving]
          exact .some ⟨names lower, rfl⟩

/-- The attribute of a saving throw does not depend on the case of its name. -/
theorem savingProp?_congr {left right : String} (same : sameUpToAsciiCase left right = true) :
    savingProp? left = savingProp? right := by
  have congr := splitPostfix?_congr same
  unfold savingProp?
  generalize splitPostfix? left = leftSplit at congr
  generalize splitPostfix? right = rightSplit at congr
  cases congr with
  | none => rfl
  | @some left right both =>
      obtain ⟨leftName, kind⟩ := left
      obtain ⟨rightName, _⟩ := right
      obtain ⟨names, rfl⟩ := both
      cases kind with
      | modifier => rfl
      | saving =>
          obtain ⟨listed, equal⟩ := Text.contains_congr propNames_caseless (synonyms.keyOf_congr names)
          change (if propNames.contains (synonyms.keyOf leftName) then some _ else none) =
            if propNames.contains (synonyms.keyOf rightName) then some _ else none
          rw [← listed]
          split
          · next member => rw [equal (List.contains_iff_mem.1 member)]
          · rfl

/-! Where numbers stand -/

/-- The keys under which resources are kept. -/
def basicNames : List String :=
  [hitPoints, maxHitPoints, level, armorClass]

/-- No rule of its own leads a key to a part of the card. -/
structure IsItem (key : String) : Prop where
  notProp : key ∉ propNames
  notSkill : isSkill key = false
  notSaving : savingProp? key = none
  notBasic : key ∉ basicNames

/-- Each key stands in the part that it is written to, no two items differ in case alone, and there are no spell
slots. -/
structure InOrder (card : DndCard) : Prop where
  props : ∀ key ∈ card.props, key ∈ propNames
  basic : ∀ key ∈ card.basic, key ∈ basicNames
  items : ∀ key ∈ card.items, IsItem key
  distinct : card.items.CaseDistinct
  slotless : card.spellSlots = ∅

/-- The place of a name on a card without spell slots. -/
inductive PlaceRule (card : DndCard) (key : String) : Place → Prop where
  | prop (prop : key ∈ propNames) : PlaceRule card key (.part .props key)
  | skill (notProp : key ∉ propNames) (skill : isSkill key = true) : PlaceRule card key (.skill key)
  | saving {prop : String} (notProp : key ∉ propNames) (notSkill : isSkill key = false)
      (names : savingProp? key = some prop) : PlaceRule card key (.saving key prop)
  | hitPoints (same : key = hitPoints) : PlaceRule card key .hitPoints
  | basic (basic : key ∈ basicNames) : PlaceRule card key (.part .basic key)
  | item (item : IsItem key) : PlaceRule card key (.part .items (card.items.keyFor key))

theorem InOrder.place_rule (ordered : card.InOrder) (input : String) :
    PlaceRule card (synonyms.keyOf input) (card.place input) := by
  unfold place
  generalize synonyms.keyOf input = key
  dsimp only
  split
  · next prop => exact .prop (List.contains_iff_mem.1 prop)
  next notProp =>
  have notProp := mt List.contains_iff_mem.2 notProp
  split
  · next skill => exact .skill notProp skill
  next notSkill =>
  have notSkill := Bool.eq_false_iff.2 notSkill
  split
  · next names => exact .saving notProp notSkill names
  next notSaving =>
  split
  · next same => exact .hitPoints same
  next notHitPoints =>
  split
  · next basic => exact .basic (List.mem_cons_of_mem _ (List.contains_iff_mem.1 basic))
  next notBasic =>
  have item : IsItem key := by
    refine ⟨notProp, notSkill, notSaving, fun basic => ?_⟩
    rcases List.mem_cons.1 basic with same | basic
    · exact notHitPoints same
    · exact notBasic (List.contains_iff_mem.2 basic)
  split
  · exact .item item
  · rw [ordered.slotless]
    simp only [Std.ExtTreeMap.contains_empty]
    exact .item item

theorem new_inOrder (name : String) (now : Instant) : (new name now).InOrder where
  props key there := by simp [new] at there
  basic key there := by simp [new] at there
  items key there := by simp [new] at there
  distinct := .empty
  slotless := rfl

/-- Setters keep each key in its part. -/
theorem InOrder.setEntry (ordered : card.InOrder) (done : card.setEntry now input value = .ok (after, changed)) :
    after.InOrder := by
  rw [setEntry_eq_putAt] at done
  have rule := ordered.place_rule input
  generalize synonyms.keyOf input = key at rule
  generalize card.place input = place at rule done
  cases rule with
  | prop prop =>
      cases done
      exact { ordered with
        props := fun name there => (Table.mem_insert.1 there).elim (fun same => same ▸ prop) (ordered.props name) }
  | skill notProp skill =>
      cases done
      exact { ordered with }
  | saving notProp notSkill names =>
      obtain ⟨core, saving, same, _⟩ := card.setSaving_eq now key _ (0 < value)
      rw [congrArg Prod.fst (Except.ok.inj done)] at same
      subst same
      exact { ordered with }
  | hitPoints same =>
      cases done
      exact { ordered with
        basic := fun name there => (Table.mem_insert.1 there).elim (fun same => same ▸ List.mem_cons_self)
          (ordered.basic name) }
  | basic basic =>
      cases done
      exact { ordered with
        basic := fun name there => (Table.mem_insert.1 there).elim (fun same => same ▸ basic) (ordered.basic name) }
  | item item =>
      cases done
      refine { ordered with items := fun name there => ?_, distinct := ordered.distinct.insert key value }
      rcases Table.mem_insert.1 there with rfl | there
      · rcases card.items.keyFor_cases key with there | ⟨_, same⟩
        · exact ordered.items _ there
        · rwa [same]
      · exact ordered.items name there

/-! What names read -/

theorem basicNames_caseless : ∀ name ∈ basicNames, isCaseless name = true := by decide +kernel

theorem stored?_none {part : DndPart}
    (missing : ∀ other ∈ card.part part, sameUpToAsciiCase other key = false) :
    card.stored? input key part = none := by
  rw [stored?, Table.lookup?_eq_none.2 missing, Option.map_none]

/-- A key that is no attribute is not found among the attributes. -/
theorem InOrder.stored?_props (ordered : card.InOrder) (notProp : key ∉ propNames) :
    card.stored? input key .props = none := by
  refine stored?_none fun other there => Bool.eq_false_iff.2 fun same => notProp ?_
  have prop := ordered.props other there
  exact sameUpToAsciiCase_caseless (propNames_caseless other prop) same ▸ prop

theorem InOrder.stored?_basic (ordered : card.InOrder) (notBasic : key ∉ basicNames) :
    card.stored? input key .basic = none := by
  refine stored?_none fun other there => Bool.eq_false_iff.2 fun same => notBasic ?_
  have basic := ordered.basic other there
  exact sameUpToAsciiCase_caseless (basicNames_caseless other basic) same ▸ basic

/-- A key with a rule of its own is not found among the items. -/
theorem InOrder.stored?_items (ordered : card.InOrder) (ruled : ∀ other, sameUpToAsciiCase other key = true →
    ¬IsItem other) : card.stored? input key .items = none :=
  stored?_none fun other there => Bool.eq_false_iff.2 fun same => ruled other same (ordered.items other there)

theorem stored?_caseless {part : DndPart} (caseless : isCaseless key = true) :
    card.stored? input key part = (card.part part)[key]?.map fun value => .stored input key value part.kind := by
  rw [stored?, Table.lookup?_caseless _ caseless, Option.map_map]
  rfl

theorem isSkill_caseless (skill : isSkill key = true) : isCaseless key = true := by
  have all : ∀ pair ∈ skillProps, isCaseless pair.1 = true := by decide +kernel
  obtain ⟨pair, member, same⟩ := List.any_eq_true.1 skill
  exact eq_of_beq same ▸ all pair member

theorem skillEntryOf?_none (notSkill : isSkill key = false) : card.skillEntryOf? input key = none := by
  unfold skillEntryOf?
  rw [List.find?_eq_none.2, Option.map_none]
  intro pair member same
  rw [isSkill, List.any_eq_false] at notSkill
  exact notSkill pair member same

/-- An attribute reads what is stored under it. -/
theorem InOrder.entryOf?_prop (ordered : card.InOrder) (prop : synonyms.keyOf input ∈ propNames)
    (kept : card.props[synonyms.keyOf input]? = some value) :
    card.entryOf? input = some (.stored input (synonyms.keyOf input) value .props) := by
  unfold DndCard.entryOf?
  generalize synonyms.keyOf input = key at prop kept
  have caseless := propNames_caseless key prop
  have items : card.stored? input key .items = none :=
    ordered.stored?_items fun other same item => item.notProp
      (sameUpToAsciiCase_caseless caseless ((sameUpToAsciiCase_comm key other).trans same) ▸ prop)
  dsimp only
  rw [items, stored?_caseless caseless, Option.none_or]
  change ((card.props[key]?.map _).or _) = _
  rw [kept]
  rfl

/-- A skill reads what it is worth. -/
theorem InOrder.entryOf?_skill (ordered : card.InOrder) (notProp : synonyms.keyOf input ∉ propNames)
    (skill : isSkill (synonyms.keyOf input) = true) :
    card.entryOf? input = card.skillEntryOf? input (synonyms.keyOf input) := by
  unfold DndCard.entryOf?
  generalize synonyms.keyOf input = key at notProp skill
  have caseless := isSkill_caseless skill
  have items : card.stored? input key .items = none :=
    ordered.stored?_items fun other same item => by
      have equal := sameUpToAsciiCase_caseless caseless ((sameUpToAsciiCase_comm key other).trans same)
      have plain := item.notSkill
      rw [← equal, skill] at plain
      cases plain
  dsimp only
  rw [items, ordered.stored?_props notProp, Option.none_or, Option.none_or]
  have found : (card.skillEntryOf? input key).isSome = true := by
    rw [skillEntryOf?, Option.isSome_map, List.find?_isSome]
    exact List.any_eq_true.1 skill
  obtain ⟨entry, stands⟩ := Option.isSome_iff_exists.1 found
  rw [stands]
  rfl

theorem InOrder.slotEntryOf? (ordered : card.InOrder) : card.slotEntryOf? input key = none := by
  unfold DndCard.slotEntryOf?
  rw [ordered.slotless]
  cases spellLevel? key with
  | none => rfl
  | some level => simp

/-- A saving throw reads its bonus. -/
theorem InOrder.entryOf?_saving (ordered : card.InOrder) (notProp : synonyms.keyOf input ∉ propNames)
    (notSkill : isSkill (synonyms.keyOf input) = false) (names : savingProp? (synonyms.keyOf input) = some prop) :
    card.entryOf? input = card.postfixEntryOf? input (synonyms.keyOf input) := by
  unfold DndCard.entryOf?
  generalize synonyms.keyOf input = key at notProp notSkill names
  have items : card.stored? input key .items = none :=
    ordered.stored?_items fun other same item => by
      have plain := item.notSaving
      rw [savingProp?_congr same, names] at plain
      cases plain
  have notBasic : key ∉ basicNames := by
    have none : ∀ name ∈ basicNames, savingProp? name = none := by decide +kernel
    intro basic
    rw [none key basic] at names
    cases names
  have notProficiency : card.proficiencyEntryOf? input key = none := by
    rw [proficiencyEntryOf?, if_neg]
    rintro rfl
    have none : savingProp? proficiency = none := by decide +kernel
    rw [none] at names
    cases names
  dsimp only
  rw [items, ordered.stored?_props notProp, skillEntryOf?_none notSkill, ordered.stored?_basic notBasic,
    notProficiency, ordered.slotEntryOf?]
  simp only [Option.none_or, Option.or_none]

/-- A resource reads what is stored. -/
theorem InOrder.entryOf?_basic (ordered : card.InOrder) (basic : synonyms.keyOf input ∈ basicNames) :
    card.entryOf? input = card.basic[synonyms.keyOf input]?.map fun value =>
      .stored input (synonyms.keyOf input) value .basic := by
  unfold DndCard.entryOf?
  generalize synonyms.keyOf input = key at basic
  have caseless := basicNames_caseless key basic
  have ruled : ∀ name ∈ basicNames, name ∉ propNames ∧ isSkill name = false ∧ splitPostfix? name = none ∧
      name ≠ proficiency := by decide +kernel
  obtain ⟨notProp, notSkill, notPostfix, notProficiency⟩ := ruled key basic
  have items : card.stored? input key .items = none :=
    ordered.stored?_items fun other same item => item.notBasic
      (sameUpToAsciiCase_caseless caseless ((sameUpToAsciiCase_comm key other).trans same) ▸ basic)
  have notModified : card.postfixEntryOf? input key = none := by
    rw [postfixEntryOf?, notPostfix]
    rfl
  dsimp only
  rw [items, ordered.stored?_props notProp, skillEntryOf?_none notSkill, stored?_caseless caseless, notModified,
    proficiencyEntryOf?, if_neg notProficiency, ordered.slotEntryOf?]
  simp only [Option.none_or, Option.or_none]
  rfl

/-- What is found among the items is what a name reads. -/
theorem entryOf?_item (found : card.items.lookup? (synonyms.keyOf input) = some (key, value)) :
    card.entryOf? input = some (.stored input key value .skills) := by
  have items : card.stored? input (synonyms.keyOf input) .items = some (.stored input key value .skills) := by
    change (card.items.lookup? _).map _ = _
    rw [found]
    rfl
  unfold DndCard.entryOf?
  dsimp only
  rw [items, Option.some_or]

end DndCard

end Tabletop
