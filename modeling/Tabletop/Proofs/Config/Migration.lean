/-
This file proves what a config of an earlier version keeps when it is brought up to date.

Each step of a migration adds what its version brings and leaves the rest, so that all steps in a row do so
too. A config that is up to date has nothing to add.
-/

import Mathlib.Data.List.Nodup
import Tabletop.Config

namespace Tabletop

/-! Lists that grow -/

section Grown

variable {α ι : Type} {id : α → ι} {before middle after front back : List α}

/-- A list has new items in front and behind, under ids that it lacked. The rest of it stays as it was, and
ids that occurred once still do. -/
structure Grown (id : α → ι) (before after : List α) : Prop where
  parts : ∃ front back, after = front ++ before ++ back ∧ ((front ++ back).map id).Nodup ∧
    ∀ item ∈ front ++ back, id item ∉ before.map id
  distinct : (before.map id).Nodup → (after.map id).Nodup

theorem Grown.of_parts (new : ((front ++ back).map id).Nodup)
    (absent : ∀ item ∈ front ++ back, id item ∉ before.map id) :
    Grown id before (front ++ before ++ back) where
  parts := ⟨front, back, rfl, new, absent⟩
  distinct old := by
    have order : (front ++ before ++ back).Perm (before ++ (front ++ back)) := by
      rw [← List.append_assoc]
      exact List.perm_append_comm.append_right back
    rw [(order.map id).nodup_iff, List.map_append]
    refine List.Nodup.append old new fun key there isNew => ?_
    obtain ⟨item, member, rfl⟩ := List.mem_map.1 isNew
    exact absent item member there

theorem Grown.refl (id : α → ι) (items : List α) : Grown id items items where
  parts := ⟨[], [], (List.append_nil items).symm, List.nodup_nil, List.forall_mem_nil _⟩
  distinct old := old

/-- The ids that the second step adds were absent after the first one, so they are other ids. -/
theorem Grown.trans (first : Grown id before middle) (second : Grown id middle after) :
    Grown id before after := by
  obtain ⟨front, back, rfl, new, absent⟩ := first.parts
  obtain ⟨outerFront, outerBack, rfl, outerNew, outerAbsent⟩ := second.parts
  have order : ((outerFront ++ front) ++ (back ++ outerBack)).Perm
      ((front ++ back) ++ (outerFront ++ outerBack)) := by
    have swapped : (outerFront ++ (front ++ back)).Perm ((front ++ back) ++ outerFront) :=
      List.perm_append_comm
    simpa only [List.append_assoc] using swapped.append_right outerBack
  have inner {key : ι} (there : key ∈ before.map id ∨ key ∈ (front ++ back).map id) :
      key ∈ (front ++ before ++ back).map id := by
    simp only [List.map_append, List.mem_append] at there ⊢
    tauto
  have same : outerFront ++ (front ++ before ++ back) ++ outerBack =
      (outerFront ++ front) ++ before ++ (back ++ outerBack) := by
    simp only [List.append_assoc]
  rw [same]
  refine Grown.of_parts ?_ fun item member => ?_
  · rw [(order.map id).nodup_iff, List.map_append]
    refine List.Nodup.append new outerNew fun key there isNew => ?_
    obtain ⟨item, member, rfl⟩ := List.mem_map.1 isNew
    exact outerAbsent item member (inner (.inr there))
  · rcases List.mem_append.1 (order.mem_iff.1 member) with early | late
    · exact absent item early
    · exact fun there => outerAbsent item late (inner (.inl there))

/-- An item is put in front, unless its id is there. -/
theorem Grown.ofMissing [DecidableEq ι] (id : α → ι) (item : α) (items : List α) :
    Grown id items (if items.any (id · == id item) then items else item :: items) := by
  split
  · exact .refl id items
  · next missing =>
    have absent : id item ∉ items.map id := by
      simpa only [List.any_eq_true, beq_iff_eq, ← List.mem_map] using missing
    have grown : Grown id items ([item] ++ items ++ []) :=
      .of_parts (List.nodup_singleton _) (List.forall_mem_singleton.2 absent)
    rwa [List.append_nil] at grown

end Grown

/-! The steps of a migration -/

namespace Config

variable {config before middle after : Config} {now : Instant}

/-- What a config of an earlier version keeps. Nothing that it has gets lost, and its lists get new items under
ids that they lacked. -/
structure Upgrades (before after : Config) : Prop where
  deciders : Grown (·.id) before.own.deciders after.own.deciders
  ownAliases : after.own.aliases = before.own.aliases
  ownTexts : Grown (·.id) before.own.texts after.own.texts
  aliases : after.aliases = before.aliases
  texts : Grown (·.id) before.texts after.texts
  /-- At most an empty list comes for a kind of hooks that has none. -/
  hooks : ∀ kind, after.hooks kind = before.hooks kind ∨
    before.hooks kind = none ∧ after.hooks kind = some []
  preferences : after.preferences = before.preferences
  deciderId : after.deciderId = before.deciderId
  dndDeciderId : ∀ id, before.dndDeciderId = some id → after.dndDeciderId = some id
  defaultRoll : after.defaultRoll = before.defaultRoll
  switches : { after.switches with reaction := before.switches.reaction } = before.switches
  /-- Emojis that roll messages are replaced if there are none. -/
  reaction : before.switches.reaction.emojis ≠ [] → after.switches.reaction = before.switches.reaction

namespace Upgrades

theorem refl (config : Config) : Upgrades config config where
  deciders := .refl _ _
  ownAliases := rfl
  ownTexts := .refl _ _
  aliases := rfl
  texts := .refl _ _
  hooks _ := .inl rfl
  preferences := rfl
  deciderId := rfl
  dndDeciderId _ there := there
  defaultRoll := rfl
  switches := rfl
  reaction _ := rfl

theorem trans (first : Upgrades before middle) (second : Upgrades middle after) :
    Upgrades before after where
  deciders := first.deciders.trans second.deciders
  ownAliases := second.ownAliases.trans first.ownAliases
  ownTexts := first.ownTexts.trans second.ownTexts
  aliases := second.aliases.trans first.aliases
  texts := first.texts.trans second.texts
  hooks kind := by
    rcases second.hooks kind with same | ⟨none, empty⟩
    · rw [same]
      exact first.hooks kind
    · rcases first.hooks kind with same | ⟨_, filled⟩
      · exact .inr ⟨same ▸ none, empty⟩
      · rw [filled] at none
        cases none
  preferences := second.preferences.trans first.preferences
  deciderId := second.deciderId.trans first.deciderId
  dndDeciderId id there := second.dndDeciderId id (first.dndDeciderId id there)
  defaultRoll := second.defaultRoll.trans first.defaultRoll
  switches := by
    have same := second.switches
    rw [← first.switches, ← same]
  reaction kept := by
    have same := first.reaction kept
    rw [second.reaction (same ▸ kept), same]

/-- The time of change does not matter. -/
theorem touched (upgrades : Upgrades before after) (now : Instant) :
    Upgrades before { after with lastModified := now } :=
  { upgrades with }

end Upgrades

/-- The ids of the built-in deciders differ, so that those that are missing come once each. -/
theorem withMissingDeciders_grown (deciders : List Decider) :
    Grown (·.id) deciders (withMissingDeciders deciders) := by
  change Grown _ _ ([] ++ deciders ++ _)
  refine Grown.of_parts ?_ fun decider member => ?_
  · have distinct : (Decider.embedded.map (·.id)).Nodup := by decide
    exact distinct.sublist (List.filter_sublist.map _)
  · have missing := (List.mem_filter.1 member).2
    simpa using missing

theorem toSecond_upgrades (config : Config) : Upgrades config config.toSecond where
  deciders := withMissingDeciders_grown config.own.deciders
  ownAliases := rfl
  ownTexts := .refl _ _
  aliases := rfl
  texts := .refl _ _
  hooks kind := by
    change some ((config.hooks kind).getD []) = _ ∨ _ ∧ some ((config.hooks kind).getD []) = _
    cases config.hooks kind with
    | none => exact .inr ⟨rfl, rfl⟩
    | some refs => exact .inl rfl
  preferences := rfl
  deciderId := rfl
  dndDeciderId id there := by
    change some (config.dndDeciderId.getD standardDndDecider) = _
    rw [there, Option.getD_some]
  defaultRoll := rfl
  switches := rfl
  reaction _ := rfl

theorem toThird_upgrades (config : Config) : Upgrades config config.toThird where
  deciders := .refl _ _
  ownAliases := rfl
  ownTexts := .ofMissing (·.id) Reply.standardTexts config.own.texts
  aliases := rfl
  texts := .ofMissing (·.id) standardTextRef config.texts
  hooks _ := .inl rfl
  preferences := rfl
  deciderId := rfl
  dndDeciderId _ there := there
  defaultRoll := rfl
  switches := by
    unfold toThird
    dsimp only
    split <;> rfl
  reaction kept := by
    unfold toThird
    dsimp only
    rw [if_neg (mt List.isEmpty_iff.1 kept)]

/-- What is done with a config depends on its version alone. -/
theorem migrate_cases (config : Config) (now : Instant) :
    (configVersion < config.version ∧ config.migrate now = .error ⟨config.version⟩) ∨
    (config.version = configVersion ∧ config.migrate now = .ok (config, false)) ∨
    (config.version = 2 ∧ config.migrate now = .ok ({ config.toThird with lastModified := now }, true)) ∨
    (config.version < 2 ∧
      config.migrate now = .ok ({ config.toSecond.toThird with lastModified := now }, true)) := by
  unfold migrate
  split
  · next new => exact .inl ⟨new, rfl⟩
  · next known =>
    split
    · next current => exact .inr (.inl ⟨current, rfl⟩)
    · next old =>
      dsimp only
      split
      · next first => exact .inr (.inr (.inr ⟨first, rfl⟩))
      · next second =>
        have isSecond : config.version = 2 := by
          unfold configVersion at known old
          omega
        exact .inr (.inr (.inl ⟨isSecond, rfl⟩))

theorem migrate_current (current : config.version = configVersion) (now : Instant) :
    config.migrate now = .ok (config, false) := by
  unfold migrate
  rw [if_neg (by omega), if_pos current]

/-- What becomes of a config at its place. One of a version that is not known stays as it is. -/
def migrated (config : Config) (now : Instant) : Config :=
  match config.migrate now with
  | .ok (after, _) => after
  | .error _ => config

theorem migrated_of_ok {changed : Bool} (done : config.migrate now = .ok (after, changed)) :
    config.migrated now = after := by
  unfold migrated
  rw [done]

/-- Configs of all known versions can be brought up to date. -/
theorem migrate_of_le (known : config.version ≤ configVersion) (now : Instant) :
    config.migrate now = .ok (config.migrated now, decide (config.version < configVersion)) ∧
      (config.migrated now).version = configVersion ∧
      (config.version < 2 → ∀ kind, ((config.migrated now).hooks kind).isSome = true) ∧
      Upgrades config (config.migrated now) := by
  rcases config.migrate_cases now with
    ⟨new, _⟩ | ⟨current, done⟩ | ⟨second, done⟩ | ⟨first, done⟩
  · omega
  · rw [migrated_of_ok done, done, current]
    exact ⟨rfl, rfl, fun first => absurd first (by decide), .refl config⟩
  · rw [migrated_of_ok done, done, second]
    exact ⟨rfl, rfl, fun first => absurd first (by decide), config.toThird_upgrades.touched now⟩
  · have old : decide (config.version < configVersion) = true := decide_eq_true (Nat.lt_trans first (by decide))
    rw [migrated_of_ok done, done, old]
    have upgrades := config.toSecond_upgrades.trans config.toSecond.toThird_upgrades
    exact ⟨rfl, rfl, fun _ _ => rfl, upgrades.touched now⟩

/-- A config of a version that is not known is refused and stays as it is. All others get to the current version
and keep what they have, and doing it again changes nothing. Those of the first version have a list for each
kind of hooks then. -/
theorem migrate_upgrades (config : Config) (now : Instant) :
    (configVersion < config.version →
      config.migrate now = .error ⟨config.version⟩ ∧ config.migrated now = config) ∧
    (config.version ≤ configVersion →
      config.migrate now = .ok (config.migrated now, decide (config.version < configVersion)) ∧
      (config.migrated now).version = configVersion ∧
      (config.version < 2 → ∀ kind, ((config.migrated now).hooks kind).isSome = true) ∧
      Upgrades config (config.migrated now) ∧
      ∀ later, (config.migrated now).migrate later = .ok (config.migrated now, false)) := by
  constructor
  · intro new
    have refused : config.migrate now = .error ⟨config.version⟩ := if_pos new
    refine ⟨refused, ?_⟩
    unfold migrated
    rw [refused]
  · intro known
    obtain ⟨done, current, hooks, upgrades⟩ := migrate_of_le known now
    exact ⟨done, current, hooks, upgrades, migrate_current current⟩

/-- A config of the first version with a decider, a text set, a list of hooks and no emojis. -/
def firstVersion : Config :=
  { standard .epoch with
    version := 1
    switches := { Switches.standard with reaction := ⟨false, []⟩ }
    dndDeciderId := none
    texts := [⟨⟨"p", "formal"⟩, false⟩]
    hooks := fun kind => if kind = .messageReaction then some [⟨⟨"p", "log"⟩, true⟩] else none
    own := ⟨Decider.embedded.take 1, [], []⟩ }

/-- It gets what it lacks, and its own items stay at their places. -/
theorem migrate_upgrades_first :
    firstVersion.version ≤ configVersion ∧
      firstVersion.migrate .epoch = .ok (firstVersion.migrated .epoch, true) ∧
      (firstVersion.migrated .epoch).texts = [standardTextRef, ⟨⟨"p", "formal"⟩, false⟩] ∧
      (firstVersion.migrated .epoch).own.deciders.map (·.id) = Decider.embedded.map (·.id) ∧
      Upgrades firstVersion (firstVersion.migrated .epoch) ∧
      (firstVersion.migrated .epoch).migrate .epoch = .ok (firstVersion.migrated .epoch, false) := by
  have known : firstVersion.version ≤ configVersion := by decide
  obtain ⟨done, -, -, upgrades, again⟩ := (migrate_upgrades firstVersion .epoch).2 known
  exact ⟨known, done, by decide +kernel, by decide +kernel, upgrades, again .epoch⟩

end Config

end Tabletop
