/-
This file proves that of two numbers that are written to one place of a card, the last one stays.

A name is written to one place, which depends on the card and on the name alone. What limits a number is
kept at other places, so the number that stays is the one that the card would keep without the first write.
-/

import Mathlib.Data.List.Sort
import Tabletop.Proofs.Card.Links
import Tabletop.Proofs.Card.Rules

namespace Tabletop

open Text

/-! Keys of names -/

namespace Table

variable {α : Type} (table : Table α)

/-- Writing under a key that is there keeps all keys. -/
theorem keys_insert {key : String} (there : key ∈ table) (value : α) :
    (table.insert key value).keys = table.keys := by
  refine (keys_sorted _).eq_of_mem_iff (keys_sorted _) fun name => ?_
  rw [Std.ExtTreeMap.mem_keys, Std.ExtTreeMap.mem_keys, Std.ExtTreeMap.mem_insert,
    Std.LawfulEqCmp.compare_eq_iff_eq]
  exact ⟨fun either => either.elim (fun same => same ▸ there) id, .inr⟩

theorem keyFor_of_mem {name : String} (there : name ∈ table) : table.keyFor name = name := by
  obtain ⟨value, kept⟩ := Option.isSome_iff_exists.1 (Std.ExtTreeMap.isSome_getElem?_iff_mem.2 there)
  rw [keyFor, lookup?, kept]
  rfl

theorem keyFor_of_not_mem {name : String} (missing : name ∉ table) :
    table.keyFor name = (table.firstKey? (sameUpToAsciiCase · name)).getD name := by
  have keys : table.toList.map (·.1) = table.keys := Std.ExtTreeMap.map_fst_toList_eq_keys
  rw [keyFor, lookup?, Std.ExtTreeMap.getElem?_eq_none missing, firstKey?, ← keys, List.find?_map]
  rfl

/-- A name keeps its key after something is written under it. -/
theorem keyFor_insert (name : String) (value : α) :
    keyFor (table.insert (table.keyFor name) value) name = table.keyFor name := by
  by_cases there : name ∈ table
  · rw [table.keyFor_of_mem there]
    exact keyFor_of_mem _ Std.ExtTreeMap.mem_insert_self
  rw [table.keyFor_of_not_mem there]
  cases found : table.firstKey? (sameUpToAsciiCase · name) with
  | none => exact keyFor_of_mem _ Std.ExtTreeMap.mem_insert_self
  | some key =>
      have kept : key ∈ table := Std.ExtTreeMap.mem_keys.1 (List.mem_of_find?_eq_some found)
      have missing : name ∉ table.insert key value := by
        rw [Std.ExtTreeMap.mem_insert, Std.LawfulEqCmp.compare_eq_iff_eq]
        rintro (rfl | member)
        · exact there kept
        · exact there member
      rw [Option.getD_some, keyFor_of_not_mem _ missing, firstKey?, table.keys_insert kept]
      exact congrArg (Option.getD · name) found

end Table

namespace CocCard

/-- Where a number is written: to an entry with limits, or under a key of a part as it is. -/
inductive Place where
  | hitPoints
  | magicPoints
  | sanity
  | mythos
  | part (part : CocPart) (key : String)
deriving DecidableEq, Repr

/-- The place to which a card writes a name. -/
def place (card : CocCard) (input : String) : Place :=
  let key := synonyms.keyOf input
  if propNames.contains key then .part .props key
  else if key = hitPoints then .hitPoints
  else if key = magicPoints then .magicPoints
  else if key = sanity then .sanity
  else if key = mythos then .mythos
  else if key = luck then .part .basic luck
  else .part .skills (card.skills.keyFor key)

def putAt (card : CocCard) (now : Instant) (value : Int) : Place → CocCard × Bool
  | .hitPoints => card.setHitPoints now value
  | .magicPoints => card.setMagicPoints now value
  | .sanity => card.setSanity now value
  | .mythos => card.setMythos now value
  | .part part key => card.put now part key value

variable {card : CocCard} {now : Instant} {value : Int} {input : String}

theorem setEntry_eq_putAt (card : CocCard) (now : Instant) (input : String) (value : Int) :
    card.setEntry now input value = card.putAt now value (card.place input) := by
  unfold setEntry place
  generalize synonyms.keyOf input = key
  dsimp only
  repeat' rw [apply_ite (card.putAt now value)]
  rfl

/-- Only the place of a skill depends on the card. -/
theorem place_cases (card : CocCard) (input : String) :
    (∀ other : CocCard,
      other.place input = .part .skills (other.skills.keyFor (synonyms.keyOf input))) ∨
    ∀ other : CocCard, other.place input = card.place input := by
  unfold place
  generalize synonyms.keyOf input = key
  dsimp only
  split
  · exact .inr fun _ => rfl
  split
  · exact .inr fun _ => rfl
  split
  · exact .inr fun _ => rfl
  split
  · exact .inr fun _ => rfl
  split
  · exact .inr fun _ => rfl
  split
  · exact .inr fun _ => rfl
  · exact .inl fun _ => rfl

/-- Writing to the place of a name does not move the name. -/
theorem place_putAt (card : CocCard) (now : Instant) (value : Int) (input : String) :
    (card.putAt now value (card.place input)).1.place input = card.place input := by
  rcases card.place_cases input with skills | same
  · rw [skills, skills]
    exact congrArg _ (Table.keyFor_insert _ _ _)
  · exact same _

theorem entryOf?_congr {left right : CocCard} (props : left.props = right.props)
    (basic : left.basic = right.basic) (skills : left.skills = right.skills) (input : String) :
    left.entryOf? input = right.entryOf? input := by
  obtain ⟨_, _, _, _, _⟩ := left
  cases props
  cases basic
  cases skills
  rfl

/-- A trained skill is read without a look at the resources. -/
theorem entryOf?_congr_skill {left right : CocCard} (props : left.props = right.props)
    (skills : left.skills = right.skills) (trained : synonyms.keyOf input ∈ left.skills) :
    left.entryOf? input = right.entryOf? input := by
  obtain ⟨value, kept⟩ := Option.isSome_iff_exists.1 (Std.ExtTreeMap.isSome_getElem?_iff_mem.2 trained)
  have found (card : CocCard) (same : card.skills = left.skills) :
      card.stored? input (synonyms.keyOf input) .skills =
        some (.stored input (synonyms.keyOf input) value .skills) := by
    unfold stored? part Table.lookup?
    dsimp only
    rw [same, kept]
    rfl
  have read (card : CocCard) (same : card.skills = left.skills) :
      card.plainEntryOf? input input = (card.stored? input (synonyms.keyOf input) .props).or
        (some (.stored input (synonyms.keyOf input) value .skills)) := by
    unfold plainEntryOf?
    dsimp only
    rw [found card same, Option.some_or]
  have shared : left.stored? input (synonyms.keyOf input) .props =
      right.stored? input (synonyms.keyOf input) .props := by
    unfold stored? part
    dsimp only
    rw [props]
  unfold entryOf?
  rw [read left rfl, read right skills.symm, shared]
  cases right.stored? input (synonyms.keyOf input) .props <;> rfl

/-- Writing the knowledge of the mythos changes no characteristic and no other skill. -/
theorem setMythos_skills (card : CocCard) (now : Instant) (value : Int) :
    (card.setMythos now value).1.props = card.props ∧
      (card.setMythos now value).1.skills = card.skills.insert mythos (bounded (some 99) value) := by
  unfold setMythos
  dsimp only
  split
  · split
    · exact ⟨rfl, rfl⟩
    · exact ⟨rfl, rfl⟩
  · exact ⟨rfl, rfl⟩

theorem keyOf_of_mythos (named : card.place input = .mythos) : synonyms.keyOf input = mythos := by
  unfold place at named
  dsimp only at named
  split at named
  · cases named
  split at named
  · cases named
  split at named
  · cases named
  split at named
  · cases named
  split at named
  · assumption
  split at named
  · cases named
  · cases named

variable {written : CocCard} {earlier : Instant} {first : Int} {part : CocPart} {key : String}

theorem put_again (wrote : (card.put earlier part key first).1 = written) (core : CardCore)
    (now later : Instant) (last : Int) (input : String) :
    (({ written with core := core } : CocCard).put later part key last).1.entryOf? input =
      (card.put now part key last).1.entryOf? input := by
  subst wrote
  cases part
  all_goals
    apply entryOf?_congr
    all_goals first | rfl | exact Table.insert_insert _ _ _ _

theorem setMythos_again (wrote : (card.setMythos earlier first).1 = written) (core : CardCore)
    (now later : Instant) (last : Int) (named : synonyms.keyOf input = mythos) :
    (({ written with core := core } : CocCard).setMythos later last).1.entryOf? input =
      (card.setMythos now last).1.entryOf? input := by
  obtain ⟨firstProps, firstSkills⟩ := card.setMythos_skills earlier first
  obtain ⟨onceProps, onceSkills⟩ := card.setMythos_skills now last
  obtain ⟨againProps, againSkills⟩ :=
    ({ written with core := core } : CocCard).setMythos_skills later last
  rw [wrote] at firstProps firstSkills
  refine entryOf?_congr_skill ?_ ?_ ?_
  · rw [againProps, onceProps, firstProps]
  · rw [againSkills, onceSkills, firstSkills, Table.insert_insert]
  · rw [againSkills, named]
    exact Std.ExtTreeMap.mem_insert_self

/-- The last of two numbers at a place is read as if the first one had not been written. -/
theorem putAt_again (wrote : (card.putAt earlier first (card.place input)).1 = written) (core : CardCore)
    (now later : Instant) (last : Int) :
    (({ written with core := core } : CocCard).putAt later last (card.place input)).1.entryOf? input =
      (card.putAt now last (card.place input)).1.entryOf? input := by
  generalize named : card.place input = place at wrote ⊢
  cases place with
  | hitPoints =>
      subst wrote
      exact put_again rfl core now later _ input
  | magicPoints =>
      subst wrote
      exact put_again rfl core now later _ input
  | sanity =>
      subst wrote
      exact put_again rfl core now later _ input
  | mythos => exact setMythos_again wrote core now later last (keyOf_of_mythos named)
  | part part key => exact put_again wrote core now later last input

theorem setEntry_again {other : String} (same : card.place other = card.place input)
    (wrote : (card.setEntry earlier other first).1 = written) (core : CardCore) (now later : Instant)
    (last : Int) :
    (({ written with core := core } : CocCard).setEntry later input last).1.entryOf? input =
      (card.setEntry now input last).1.entryOf? input := by
  rw [setEntry_eq_putAt, same] at wrote
  have stays := card.place_putAt earlier first input
  rw [wrote] at stays
  change place { written with core := core } input = card.place input at stays
  rw [setEntry_eq_putAt, setEntry_eq_putAt, stays]
  exact putAt_again wrote core now later last

end CocCard

namespace DndCard

/-- Where a number is written: to an entry with a rule of its own, or under a key of a part as it is. -/
inductive Place where
  | skill (key : String)
  | saving (key prop : String)
  | hitPoints
  | slot (key slotLevel : String)
  | part (part : DndPart) (key : String)
deriving DecidableEq, Repr

/-- The place to which a card writes a name. -/
def place (card : DndCard) (input : String) : Place :=
  let key := synonyms.keyOf input
  if propNames.contains key then .part .props key
  else if isSkill key then .skill key
  else
    match savingProp? key with
    | some prop => .saving key prop
    | none =>
      if key = hitPoints then .hitPoints
      else if [maxHitPoints, level, armorClass].contains key then .part .basic key
      else
        match spellLevel? key with
        | none => .part .items (card.items.keyFor key)
        | some slotLevel =>
          if card.spellSlots.contains slotLevel then .slot key slotLevel
          else .part .items (card.items.keyFor key)

def putAt (card : DndCard) (now : Instant) (value : Int) : Place → Except Fault (DndCard × Bool)
  | .skill key => .ok (card.put now .skills key (max 0 (min value 2)))
  | .saving key prop => .ok (card.setSaving now key prop (0 < value))
  | .hitPoints => .ok (card.setHitPoints now value)
  | .slot key slotLevel =>
    match card.spellSlots[slotLevel]? with
    | some slot => card.setSlot now key slotLevel slot value
    | none => .ok (card, false)
  | .part part key => .ok (card.put now part key value)

variable {card written tried : DndCard} {earlier now : Instant} {first last : Int} {input : String}
  {changed : Bool}

theorem setEntry_eq_putAt (card : DndCard) (now : Instant) (input : String) (value : Int) :
    card.setEntry now input value = card.putAt now value (card.place input) := by
  unfold setEntry place
  generalize synonyms.keyOf input = key
  dsimp only
  split
  · rfl
  split
  · rfl
  cases savingProp? key with
  | some prop => rfl
  | none =>
      dsimp only
      split
      · rfl
      split
      · rfl
      cases spellLevel? key with
      | none => rfl
      | some slotLevel =>
          dsimp only
          rw [Std.ExtTreeMap.contains_eq_isSome_getElem?]
          cases kept : card.spellSlots[slotLevel]? with
          | none => rfl
          | some slot =>
              change _ = match card.spellSlots[slotLevel]? with
                | some slot => card.setSlot now key slotLevel slot value
                | none => .ok (card, false)
              rw [kept]

theorem entryOf?_congr {left right : DndCard} (props : left.props = right.props)
    (skills : left.skills = right.skills) (basic : left.basic = right.basic)
    (items : left.items = right.items) (slots : left.spellSlots = right.spellSlots)
    (saving : left.savingProficiency = right.savingProficiency) (input : String) :
    left.entryOf? input = right.entryOf? input := by
  obtain ⟨_, _, _, _, _, _, _, _⟩ := left
  cases props
  cases skills
  cases basic
  cases items
  cases slots
  cases saving
  rfl

variable {part : DndPart} {key : String} {value : Int}

theorem put_again (wrote : (card.put earlier part key first).1 = written) (core : CardCore)
    (now later : Instant) (last : Int) (input : String) :
    (({ written with core := core } : DndCard).put later part key last).1.entryOf? input =
      (card.put now part key last).1.entryOf? input := by
  subst wrote
  cases part
  all_goals
    apply entryOf?_congr
    all_goals first | rfl | exact Table.insert_insert _ _ _ _

/-- A saving throw is proficient after it was set so, and the others stay as they were. -/
theorem setSaving_eq (card : DndCard) (now : Instant) (key prop : String) (proficient : Bool) :
    ∃ core saving, (card.setSaving now key prop proficient).1 =
        { card with core := core, savingProficiency := saving } ∧
      ∀ name, name ∈ saving ↔
        if name = prop then proficient = true else name ∈ card.savingProficiency := by
  unfold setSaving
  dsimp only
  split
  · next same =>
    refine ⟨_, _, rfl, fun name => ?_⟩
    split
    · next named => rw [named, ← same, Std.ExtTreeSet.contains_iff_mem]
    · rfl
  · refine ⟨_, _, rfl, fun name => ?_⟩
    cases proficient
    · simp only [Bool.false_eq_true, if_false, Std.ExtTreeSet.mem_erase, ne_eq,
        Std.LawfulEqCmp.compare_eq_iff_eq, eq_comm (a := name)]
      split <;> simp_all
    · simp only [if_true, Std.ExtTreeSet.mem_insert, Std.LawfulEqCmp.compare_eq_iff_eq,
        eq_comm (a := name)]
      split <;> simp_all

theorem setSaving_again {proficient : Bool} {prop : String}
    (wrote : (card.setSaving earlier key prop proficient).1 = written) (core : CardCore)
    (now later : Instant) (last : Bool) (input : String) :
    (({ written with core := core } : DndCard).setSaving later key prop last).1.entryOf? input =
      (card.setSaving now key prop last).1.entryOf? input := by
  obtain ⟨_, once, onceSet, onceSaving⟩ := card.setSaving_eq now key prop last
  obtain ⟨_, before, firstSet, firstSaving⟩ := card.setSaving_eq earlier key prop proficient
  rw [wrote] at firstSet
  subst firstSet
  obtain ⟨_, again, againSet, againSaving⟩ :=
    ({ card with core := core, savingProficiency := before } : DndCard).setSaving_eq later key prop last
  have same : again = once := by
    refine Std.ExtTreeSet.ext_mem fun name => ?_
    rw [againSaving, onceSaving]
    split
    · rfl
    · next other => rw [firstSaving, if_neg other]
  rw [onceSet, againSet, same]
  rfl

theorem setHitPoints_again (wrote : (card.setHitPoints earlier first).1 = written) (core : CardCore)
    (now later : Instant) (last : Int) (input : String) :
    (({ written with core := core } : DndCard).setHitPoints later last).1.entryOf? input =
      (card.setHitPoints now last).1.entryOf? input := by
  have limit : written.basic[maxHitPoints]? = card.basic[maxHitPoints]? := by
    subst wrote
    exact (Table.get_insert _ _ _ _).trans (if_neg (by decide))
  unfold setHitPoints at wrote ⊢
  dsimp only at wrote ⊢
  rw [limit]
  exact put_again wrote core now later _ input

theorem setSlot_again {slotLevel : String} {slot : SpellSlot} {changed changedAlone : Bool}
    (wrote : card.setSlot earlier key slotLevel slot first = .ok (written, changed))
    (alone : card.setSlot now key slotLevel slot last = .ok (tried, changedAlone))
    (core : CardCore) (later : Instant) (input : String) :
    ∃ after again, putAt { written with core := core } later last (.slot key slotLevel) =
      .ok (after, again) ∧ after.entryOf? input = tried.entryOf? input := by
  unfold setSlot at wrote alone
  split at wrote
  · cases wrote
  next open? =>
  rw [if_neg open?] at alone
  cases wrote
  cases alone
  have kept (left : SpellSlot) : (card.spellSlots.insert slotLevel left)[slotLevel]? = some left := by
    rw [Table.get_insert, if_pos rfl]
  unfold putAt
  dsimp only
  rw [kept]
  dsimp only
  unfold setSlot
  rw [if_neg open?]
  refine ⟨_, _, rfl, ?_⟩
  apply entryOf?_congr
  all_goals first | rfl | exact Table.insert_insert _ _ _ _

/-- The last of two numbers at a place is read as if the first one had not been written. -/
theorem putAt_again {place : Place} {changed changedAlone : Bool}
    (wrote : card.putAt earlier first place = .ok (written, changed))
    (alone : card.putAt now last place = .ok (tried, changedAlone)) (core : CardCore) (later : Instant)
    (input : String) :
    ∃ after again, putAt { written with core := core } later last place = .ok (after, again) ∧
      after.entryOf? input = tried.entryOf? input := by
  cases place with
  | skill key =>
      cases alone
      exact ⟨_, _, rfl, put_again (congrArg Prod.fst (Except.ok.inj wrote)) core now later _ input⟩
  | saving key prop =>
      have writtenIs := congrArg Prod.fst (Except.ok.inj wrote)
      have triedIs := congrArg (·.1.entryOf? input) (Except.ok.inj alone)
      exact ⟨_, _, rfl, (setSaving_again writtenIs core now later _ input).trans triedIs⟩
  | hitPoints =>
      have writtenIs := congrArg Prod.fst (Except.ok.inj wrote)
      cases alone
      exact ⟨_, _, rfl, setHitPoints_again writtenIs core now later _ input⟩
  | slot key slotLevel =>
      unfold putAt at wrote alone
      dsimp only at wrote alone
      split at wrote
      · next slot kept =>
        rw [kept] at alone
        exact setSlot_again wrote alone core later input
      · next missing =>
        rw [missing] at alone
        cases wrote
        cases alone
        refine ⟨{ card with core := core }, false, ?_, rfl⟩
        unfold putAt
        dsimp only
        rw [missing]
  | part part key =>
      cases alone
      exact ⟨_, _, rfl, put_again (congrArg Prod.fst (Except.ok.inj wrote)) core now later last input⟩

theorem place_congr {left right : DndCard}
    (items : left.items.keyFor (synonyms.keyOf input) = right.items.keyFor (synonyms.keyOf input))
    (slots : ∀ slotLevel, left.spellSlots.contains slotLevel = right.spellSlots.contains slotLevel) :
    left.place input = right.place input := by
  unfold place
  simp only [items, slots]

theorem keyFor_of_place (named : card.place input = .part .items key) :
    card.items.keyFor (synonyms.keyOf input) = key := by
  unfold place at named
  dsimp only at named
  split at named
  · cases named
  split at named
  · cases named
  split at named
  · cases named
  split at named
  · cases named
  split at named
  · cases named
  split at named
  · cases named
    rfl
  split at named
  · cases named
  · cases named
    rfl

/-- Writing to the place of a name does not move the name. -/
theorem place_putAt {changed : Bool}
    (wrote : card.putAt now value (card.place input) = .ok (written, changed)) :
    written.place input = card.place input := by
  generalize named : card.place input = place at wrote
  rw [← named]
  cases place with
  | skill key =>
      cases wrote
      exact place_congr rfl fun _ => rfl
  | saving key prop =>
      obtain ⟨core, saving, same, _⟩ := card.setSaving_eq now key prop (0 < value)
      rw [congrArg Prod.fst (Except.ok.inj wrote)] at same
      subst same
      exact place_congr rfl fun _ => rfl
  | hitPoints =>
      cases wrote
      exact place_congr rfl fun _ => rfl
  | slot key slotLevel =>
      unfold putAt at wrote
      dsimp only at wrote
      split at wrote
      · next slot kept =>
        unfold setSlot at wrote
        split at wrote
        · cases wrote
        cases wrote
        refine place_congr rfl fun other => ?_
        have there : card.spellSlots.contains slotLevel = true := by
          rw [Std.ExtTreeMap.contains_eq_isSome_getElem?, kept]
          rfl
        dsimp only
        rw [Std.ExtTreeMap.contains_insert]
        by_cases same : slotLevel = other
        · rw [← same, there, Bool.or_true]
        · simp [same]
      · cases wrote
        rfl
  | part part key =>
      cases wrote
      cases part with
      | items =>
          rw [← keyFor_of_place named]
          exact place_congr (Table.keyFor_insert _ _ _) fun _ => rfl
      | _ => exact place_congr rfl fun _ => rfl

theorem putAt_later {place : Place} {value : Int} {changed : Bool}
    (done : card.putAt now value place = .ok (tried, changed)) (later : Instant) :
    ∃ after again, card.putAt later value place = .ok (after, again) := by
  cases place with
  | slot key slotLevel =>
      unfold putAt at done ⊢
      dsimp only at done ⊢
      split
      · next slot kept =>
        rw [kept] at done
        dsimp only at done
        unfold setSlot at done ⊢
        split at done
        · cases done
        · next open? =>
          rw [if_neg open?]
          exact ⟨_, _, rfl⟩
      · exact ⟨_, _, rfl⟩
  | _ => exact ⟨_, _, rfl⟩

end DndCard

namespace GeneralCard

/-- The last of two numbers under a key is read as if the first one had not been written. -/
theorem setEntry_again {card : GeneralCard} {first : Int} {earlier : Instant} {other input : String}
    (same : card.skills.keyFor other = card.skills.keyFor input) (core : CardCore) (now later : Instant)
    (last : Int) :
    (({ (card.setEntry earlier other first).1 with core := core } : GeneralCard).setEntry later input
      last).1.entryOf? input = (card.setEntry now input last).1.entryOf? input := by
  have stays := card.skills.keyFor_insert input first
  have skills : (card.skills.insert (card.skills.keyFor other) first).insert
      (Table.keyFor (card.skills.insert (card.skills.keyFor other) first) input) last =
        card.skills.insert (card.skills.keyFor input) last := by
    rw [same, stays, Table.insert_insert]
  exact congrArg (fun skills => entryOf? { card with skills := skills } input) skills

end GeneralCard

namespace Card

/-- The place to which a card writes a name. -/
inductive Place where
  | general (key : String)
  | coc (place : CocCard.Place)
  | dnd (place : DndCard.Place)
deriving DecidableEq, Repr

def place (card : Card) (input : String) : Place :=
  match card with
  | .general card => .general (card.skills.keyFor input)
  | .coc card => .coc (card.place input)
  | .dnd card => .dnd (card.place input)

variable {card written tried : Card} {earlier now : Instant} {other input : String} {first last : Int}
  {changed changedAlone : Bool}

/-- A number that can be written can be written at any time. -/
theorem setEntry_later (done : card.setEntry now input last = .ok (tried, changed)) (later : Instant) :
    ∃ after again, card.setEntry later input last = .ok (after, again) := by
  cases card with
  | general card => exact ⟨_, _, rfl⟩
  | coc card => exact ⟨_, _, rfl⟩
  | dnd card =>
      obtain ⟨⟨once, changedOnce⟩, put, _⟩ := map_eq_ok.1 done
      rw [DndCard.setEntry_eq_putAt] at put
      obtain ⟨after, again, putLater⟩ := DndCard.putAt_later put later
      rw [← DndCard.setEntry_eq_putAt] at putLater
      exact ⟨_, _, map_eq_ok.2 ⟨_, putLater, rfl⟩⟩

/-- The last of two numbers that are written to one place is read as if the first one had not been
written. -/
theorem setEntry_again (same : card.place other = card.place input)
    (wrote : card.setEntry earlier other first = .ok (written, changed))
    (alone : card.setEntry now input last = .ok (tried, changedAlone)) (core : CardCore)
    (later : Instant) :
    ∃ after again, (written.setCore core).setEntry later input last = .ok (after, again) ∧
      after.entryOf? input = tried.entryOf? input := by
  cases card with
  | general card =>
      cases wrote
      cases alone
      exact ⟨_, _, rfl, GeneralCard.setEntry_again (Place.general.inj same) core now later last⟩
  | coc card =>
      cases wrote
      cases alone
      exact ⟨_, _, rfl, CocCard.setEntry_again (Place.coc.inj same) rfl core now later last⟩
  | dnd card =>
      obtain ⟨⟨first, _⟩, put, wroteIs⟩ := map_eq_ok.1 wrote
      obtain ⟨⟨once, _⟩, putAlone, aloneIs⟩ := map_eq_ok.1 alone
      cases wroteIs
      cases aloneIs
      rw [DndCard.setEntry_eq_putAt] at put putAlone
      rw [Place.dnd.inj same] at put
      obtain ⟨after, again, putAgain, read⟩ := DndCard.putAt_again put putAlone core later input
      have stays : DndCard.place { first with core := core } input = card.place input := by
        rw [← DndCard.place_putAt put]
        exact DndCard.place_congr rfl fun _ => rfl
      rw [← stays, ← DndCard.setEntry_eq_putAt] at putAgain
      exact ⟨_, _, map_eq_ok.2 ⟨_, putAgain, rfl⟩, read⟩

end Card

end Tabletop
