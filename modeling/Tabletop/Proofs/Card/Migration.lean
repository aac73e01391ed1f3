/-
This file proves that bringing an old card up to date keeps what all names find on it.

Resources move from the skills to the basics. A resource that already stood among the basics keeps that number, and the
one among the skills is lost.
-/

import Tabletop.Proofs.Card.Abilities

namespace Tabletop

open Text

namespace Table

variable {α : Type} {first second : Table α} {name : String}

/-- What stands under a key already stays there. -/
theorem get_insertIfNew (table : Table α) (key name : String) (value : α) : (table.insertIfNew key value)[name]? =
    if key = name then table[name]?.or (some value) else table[name]? := by
  rw [Std.ExtTreeMap.getElem?_insertIfNew]
  simp only [Std.LawfulEqCmp.compare_eq_iff_eq]
  by_cases same : key = name
  · subst same
    by_cases there : key ∈ table
    · obtain ⟨held, stands⟩ := Option.isSome_iff_exists.1 (Std.ExtTreeMap.isSome_getElem?_iff_mem.2 there)
      rw [if_neg fun fresh => fresh.2 there, if_pos rfl, stands, Option.some_or]
    · rw [if_pos ⟨rfl, there⟩, if_pos rfl, Std.ExtTreeMap.getElem?_eq_none there, Option.none_or]
  · rw [if_neg fun fresh => same fresh.1, if_neg same]

/-- What a name finds depends on the keys that differ from it at most in case. -/
theorem lookup?_congr (same : ∀ key, sameUpToAsciiCase key name = true → first[key]? = second[key]?) :
    first.lookup? name = second.lookup? name := by
  have member {key : String} (close : sameUpToAsciiCase key name = true) : key ∈ first ↔ key ∈ second := by
    rw [← Std.ExtTreeMap.isSome_getElem?_iff_mem, ← Std.ExtTreeMap.isSome_getElem?_iff_mem, same key close]
  have here := same name (sameUpToAsciiCase_refl name)
  by_cases there : name ∈ first
  · obtain ⟨value, stands⟩ := Option.isSome_iff_exists.1 (Std.ExtTreeMap.isSome_getElem?_iff_mem.2 there)
    rw [lookup?, lookup?, ← here, stands]
  · rw [lookup?_of_not_mem _ there, lookup?_of_not_mem _ (mt (member (sameUpToAsciiCase_refl name)).2 there),
      firstKey?_congr fun key => member]
    cases found : second.firstKey? (sameUpToAsciiCase · name) with
    | none => rfl
    | some key =>
        have close := List.find?_some found
        rw [Option.bind_some, Option.bind_some, same key close]

end Table

namespace Entry

/-- The value and the base value. -/
def numbers (entry : Entry) : Int × Int :=
  (entry.value, entry.baseValue)

/-- The part of a number that the modifier of the entry leaves. -/
def share (entry : Entry) (number : Int) : Int :=
  match entry.modifier with
  | .difficulty difficulty => number.tdiv difficulty.divisor
  | _ => number

/-- The entry with another base value. -/
def rebased (entry : Entry) (number : Int) : Entry :=
  { entry with value := entry.share number, baseValue := number }

end Entry

namespace CocCard

variable {card : CocCard} {names : List String} {key name : String}

/-- Moves a resource from the skills to the basics, unless it stands there already. -/
def moveResource (card : CocCard) (key : String) : CocCard :=
  match card.skills[key]? with
  | some value => { card with skills := card.skills.erase key, basic := card.basic.insertIfNew key value }
  | none => card

/-- Some keys were moved from the skills to the basics, and nothing else was changed. -/
structure Moved (before after : CocCard) (names : List String) : Prop where
  core : after.core = before.core
  props : after.props = before.props
  skills : ∀ key, after.skills[key]? = if key ∈ names then none else before.skills[key]?
  basic : ∀ key, after.basic[key]? =
    if key ∈ names then before.basic[key]?.or before.skills[key]? else before.basic[key]?

theorem moveResource_moved (card : CocCard) (key : String) : Moved card (card.moveResource key) [key] := by
  cases kept : card.skills[key]? with
  | none =>
      have still : card.moveResource key = card := by rw [moveResource, kept]
      rw [still]
      refine ⟨rfl, rfl, fun name => ?_, fun name => ?_⟩
      · by_cases same : name = key <;> simp [same, kept]
      · by_cases same : name = key <;> simp [same, kept]
  | some value =>
      rw [moveResource, kept]
      refine ⟨rfl, rfl, fun name => ?_, fun name => ?_⟩
      · simp only [Table.get_erase, List.mem_singleton, eq_comm]
      · simp only [Table.get_insertIfNew, List.mem_singleton]
        by_cases same : key = name
        · rw [if_pos same, if_pos same.symm, ← same, kept]
        · rw [if_neg same, if_neg (Ne.symm same)]

theorem foldl_moved (names : List String) (card : CocCard) : Moved card (names.foldl moveResource card) names := by
  induction names generalizing card with
  | nil => exact ⟨rfl, rfl, fun _ => rfl, fun _ => rfl⟩
  | cons key others inductionHypothesis =>
      have first := moveResource_moved card key
      have rest := inductionHypothesis (card.moveResource key)
      refine ⟨rest.core.trans first.core, rest.props.trans first.props, fun name => ?_, fun name => ?_⟩
      · rw [List.foldl_cons, rest.skills, first.skills]
        by_cases later : name ∈ others <;> by_cases now : name = key <;> simp [later, now]
      · rw [List.foldl_cons, rest.basic, first.basic, first.skills]
        by_cases later : name ∈ others <;> by_cases now : name = key <;> simp [later, now]

theorem migrateFrom_moved {version : Nat} (old : version < 2) : Moved card (card.migrateFrom version) basicNames := by
  have same : card.migrateFrom version = basicNames.foldl moveResource card := by
    rw [migrateFrom, if_pos old]
    rfl
  rw [same]
  exact foldl_moved basicNames card

/-! Names -/

/-- The entry as it is found when the resources stand among the basics. -/
def settled (card : CocCard) (entry : Entry) : Entry :=
  if entry.kind = .skills ∧ entry.key ∈ basicNames then
    { entry.rebased (card.basic.getD entry.key entry.baseValue) with kind := .basic }
  else entry

variable {before after : CocCard}

theorem Moved.computed? (moved : Moved before after names) (key : String) :
    after.computed? key = before.computed? key := by
  unfold CocCard.computed? bulk? maxHitPoints? maxMagicPoints? movement?
  rw [moved.props]

theorem basicNames_caseless : ∀ name ∈ basicNames, isCaseless name = true := by decide +kernel

/-- A name of another key finds nothing that is moved. -/
theorem Moved.stored?_others (moved : Moved before after basicNames) (other : key ∉ basicNames) (input : String)
    (part : CocPart) : after.stored? input key part = before.stored? input key part := by
  have apart {name : String} (close : sameUpToAsciiCase name key = true) : name ∉ basicNames := fun member =>
    other (sameUpToAsciiCase_caseless (basicNames_caseless name member) close ▸ member)
  have same : (after.part part).lookup? key = (before.part part).lookup? key := by
    refine Table.lookup?_congr fun name close => ?_
    cases part with
    | props => rw [CocCard.part, CocCard.part, moved.props]
    | skills => rw [CocCard.part, CocCard.part, moved.skills, if_neg (apart close)]
    | basic => rw [CocCard.part, CocCard.part, moved.basic, if_neg (apart close)]
  rw [stored?, stored?, same]

/-- A name of another key finds no resource. -/
theorem settled_of_stored? {input : String} {part : CocPart} {entry : Entry} (other : key ∉ basicNames)
    (found : before.stored? input key part = some entry) : before.settled entry = entry := by
  obtain ⟨⟨name, value⟩, looked, rfl⟩ := Option.map_eq_some_iff.1 found
  have close := (Table.lookup?_eq_some looked).2
  refine if_neg fun ⟨_, resource⟩ => ?_
  have equal : name = key := sameUpToAsciiCase_caseless (basicNames_caseless name resource) close
  exact other (equal ▸ resource)

/-- A resource is found among the basics, with the number that it had there or else among the skills. -/
theorem Moved.plainEntryOf?_resource (moved : Moved before after basicNames) (input : String)
    (resource : synonyms.keyOf name ∈ basicNames) :
    after.plainEntryOf? input name = (before.plainEntryOf? input name).map before.settled := by
  rw [CocCard.plainEntryOf?, CocCard.plainEntryOf?, moved.computed?]
  generalize synonyms.keyOf name = key at resource
  have caseless := basicNames_caseless key resource
  simp only [stored?_caseless caseless, CocCard.part, moved.props, moved.skills, moved.basic, if_pos resource]
  cases before.props[key]? with
  | some value => rfl
  | none =>
      cases before.skills[key]? with
      | none => cases before.basic[key]? <;> cases before.computed? key <;> rfl
      | some value =>
          have kept : before.settled (.stored input key value .skills) =
              .stored input key ((before.basic[key]?).getD value) .basic := by
            rw [← Std.ExtTreeMap.getD_eq_getD_getElem?]
            exact if_pos ⟨rfl, resource⟩
          simp only [CocPart.kind, Option.map_none, Option.none_or, Option.map_some, Option.some_or, kept]
          cases before.basic[key]? <;> rfl

/-- The parts are searched one after the other, so the order in which a name is found stays the same. -/
theorem Moved.plainEntryOf?_others (moved : Moved before after basicNames) (input : String)
    (other : synonyms.keyOf name ∉ basicNames) :
    after.plainEntryOf? input name = (before.plainEntryOf? input name).map before.settled := by
  rw [CocCard.plainEntryOf?, CocCard.plainEntryOf?, moved.computed?]
  generalize synonyms.keyOf name = key at other
  simp only [moved.stored?_others other]
  cases props : before.stored? input key .props with
  | some entry => rw [Option.some_or, Option.map_some, settled_of_stored? other props]
  | none =>
      cases skills : before.stored? input key .skills with
      | some entry => rw [Option.none_or, Option.some_or, Option.map_some, settled_of_stored? other skills]
      | none =>
          cases basic : before.stored? input key .basic with
          | some entry =>
              simp only [Option.none_or, Option.some_or, Option.map_some, settled_of_stored? other basic]
          | none => cases before.computed? key <;> rfl

theorem Moved.plainEntryOf? (moved : Moved before after basicNames) (input name : String) :
    after.plainEntryOf? input name = (before.plainEntryOf? input name).map before.settled := by
  by_cases resource : synonyms.keyOf name ∈ basicNames
  · exact moved.plainEntryOf?_resource input resource
  · exact moved.plainEntryOf?_others input resource

theorem settled_withDifficulty (card : CocCard) (entry : Entry) (difficulty : Difficulty) :
    (card.settled entry).withDifficulty difficulty = card.settled (entry.withDifficulty difficulty) := by
  unfold settled
  split
  · next resource => exact (if_pos resource).symm
  · next other => exact (if_neg other).symm

theorem Moved.entryOf? (moved : Moved before after basicNames) (input : String) :
    after.entryOf? input = (before.entryOf? input).map before.settled := by
  rw [CocCard.entryOf?, CocCard.entryOf?, moved.plainEntryOf?]
  cases before.plainEntryOf? input input with
  | some entry => exact congrArg some (settled_withDifficulty before entry .normal)
  | none =>
      rw [Option.map_none]
      rcases Difficulty.split input.toList with ⟨difficulty, rest⟩
      cases difficulty with
      | normal => rfl
      | hard | extreme =>
          simp only [moved.plainEntryOf?, Option.map_map]
          exact congrArg (Option.map · _) (funext fun entry => settled_withDifficulty before entry _)

/-- The value of an entry is the share of its base value that the difficulty leaves. -/
theorem value_of_entryOf? {entry : Entry} {input : String} (found : card.entryOf? input = some entry) :
    entry.value = entry.share entry.baseValue := by
  unfold CocCard.entryOf? at found
  split at found
  · cases found
    rfl
  · split at found
    · cases found
    · obtain ⟨plain, _, rfl⟩ := Option.map_eq_some_iff.1 found
      rfl

/-- The entry is a resource among the skills that stands among the basics as well. -/
def Doubled (card : CocCard) (entry : Entry) : Prop :=
  entry.kind = .skills ∧ entry.key ∈ basicNames ∧ entry.key ∈ card.basic

/-- All names find the numbers on the new card that they find on the old one. Of a resource that stands on the old card
twice they find the number among the basics. -/
structure Keeps (before after : CocCard) : Prop where
  core : after.core = { before.core with version := cardVersion }
  same : ∀ name, (∀ entry, before.entryOf? name = some entry → ¬ before.Doubled entry) →
    (after.entryOf? name).map Entry.numbers = (before.entryOf? name).map Entry.numbers
  wins : ∀ name entry, before.entryOf? name = some entry → before.Doubled entry →
    ∃ number, before.basic[entry.key]? = some number ∧
      (after.entryOf? name).map Entry.numbers = some (entry.share number, number)

theorem numbers_settled_of_single {entry : Entry} {input : String} (found : card.entryOf? input = some entry)
    (single : ¬ card.Doubled entry) : (card.settled entry).numbers = entry.numbers := by
  unfold settled
  split
  · next resource =>
    have missing : entry.key ∉ card.basic := fun there => single ⟨resource.1, resource.2, there⟩
    rw [Std.ExtTreeMap.getD_eq_fallback missing]
    exact congrArg (·, entry.baseValue) (value_of_entryOf? found).symm
  · rfl

theorem numbers_settled_of_doubled {entry : Entry} {number : Int} (doubled : card.Doubled entry)
    (held : card.basic[entry.key]? = some number) :
    (card.settled entry).numbers = (entry.share number, number) := by
  rw [settled, if_pos ⟨doubled.1, doubled.2.1⟩, Std.ExtTreeMap.getD_eq_getD_getElem?, held]
  rfl

/-- Entries do not depend on the version of a card. -/
theorem Moved.keeps (moved : Moved before after basicNames) :
    before.Keeps { after with core := { after.core with version := cardVersion } } where
  core := by rw [moved.core]
  same name single := by
    change (after.entryOf? name).map Entry.numbers = _
    rw [moved.entryOf?]
    cases found : before.entryOf? name with
    | none => rfl
    | some entry => exact congrArg some (numbers_settled_of_single found (single entry found))
  wins name entry found doubled := by
    obtain ⟨number, held⟩ := Option.isSome_iff_exists.1 (Std.ExtTreeMap.isSome_getElem?_iff_mem.2 doubled.2.2)
    refine ⟨number, held, ?_⟩
    change (after.entryOf? name).map Entry.numbers = _
    rw [moved.entryOf?, found]
    exact congrArg some (numbers_settled_of_doubled doubled held)

end CocCard

namespace Card

variable {card after : Card} {changed : Bool}

theorem migrate_of_current (current : card.core.version = cardVersion) : card.migrate = .ok (card, false) := by
  unfold migrate
  rw [current]
  rfl

theorem version_of_migrate (done : card.migrate = .ok (after, changed)) : after.core.version = cardVersion := by
  simp only [migrate] at done
  by_cases future : cardVersion < card.core.version
  · rw [if_pos future] at done
    cases done
  · rw [if_neg future] at done
    by_cases current : card.core.version = cardVersion
    · rw [if_pos current] at done
      cases done
      exact current
    · rw [if_neg current] at done
      cases done
      exact congrArg CardCore.version (setCore_core _ _)

theorem migrate_coc {payload : CocCard} (old : payload.core.version < cardVersion) :
    ∃ after, (Card.coc payload).migrate = .ok (.coc after, true) ∧ payload.Keeps after := by
  refine ⟨_, ?_, (CocCard.migrateFrom_moved old).keeps⟩
  exact (if_neg (Nat.not_lt_of_gt old)).trans (if_neg (Nat.ne_of_lt old))

/-- Bringing a card up to date loses no number, is done after the first time, and refuses a version from the future. -/
theorem migrate_loses_nothing (card : Card) :
    (∀ payload, card = .coc payload → payload.core.version < 2 →
      ∃ after, card.migrate = .ok (.coc after, true) ∧ after.core.version = 2 ∧ payload.Keeps after) ∧
    (∀ after changed, card.migrate = .ok (after, changed) → after.migrate = .ok (after, false)) ∧
    (2 < card.core.version → card.migrate = .error ⟨card.core.version⟩) := by
  refine ⟨?_, fun after changed done => migrate_of_current (version_of_migrate done), fun future => if_pos future⟩
  rintro payload rfl old
  obtain ⟨after, done, keeps⟩ := migrate_coc old
  exact ⟨after, done, version_of_migrate done, keeps⟩

/-- A card of the first version: sanity stands among the skills, and luck stands twice. -/
def aged : CocCard :=
  { CocCard.new "A" .epoch with
    core := { CardCore.new "A" .epoch with version := 1 }
    skills := .ofPairs [("理智", 45), ("幸运", 30), ("侦查", 60)]
    basic := .ofPairs [("幸运", 50)] }

theorem migrate_aged : ∃ after, (Card.coc aged).migrate = .ok (.coc after, true) ∧
    (after.entryOf? "困难san").map Entry.numbers = some (22, 45) ∧
    (after.entryOf? "困难luck").map Entry.numbers = some (25, 50) := by
  obtain ⟨after, done, -, keeps⟩ := (migrate_loses_nothing (.coc aged)).1 aged rfl (by decide)
  have sanity : aged.entryOf? "困难san" =
      some ⟨"困难san", "理智", 22, 45, false, false, .skills, .difficulty .hard⟩ := by
    decide +kernel
  have luck : aged.entryOf? "困难luck" =
      some ⟨"困难luck", "幸运", 15, 30, false, false, .skills, .difficulty .hard⟩ := by
    decide +kernel
  have sanityOnce : "理智" ∉ aged.basic := by decide +kernel
  have luckTwice : aged.basic["幸运"]? = some 50 := by decide +kernel
  refine ⟨after, done, ?_, ?_⟩
  · rw [keeps.same, sanity]
    · rfl
    · intro entry found doubled
      rw [sanity] at found
      cases found
      exact sanityOnce doubled.2.2
  · obtain ⟨number, held, wins⟩ := keeps.wins _ _ luck ⟨rfl, by decide, Table.mem_of_get luckTwice⟩
    rw [luckTwice] at held
    cases held
    exact wins

end Card

end Tabletop
