/-
This file proves what becomes of a config that is brought in line with the loaded plugins.

Each list keeps what can still be found and gets what it lacks. A list that lacks nothing stays as it is, so
doing it again changes nothing, and plugins that come and go leave no trace.
-/

import Mathlib.Data.List.Basic
import Tabletop.Config.Store
import Tabletop.Proofs.Json.Decode

namespace Tabletop

/-! Lists of references -/

theorem eraseDups_concat {α : Type} [DecidableEq α] (items : List α) (item : α) :
    (items ++ [item]).eraseDups =
      if item ∈ items then items.eraseDups else items.eraseDups ++ [item] := by
  rw [List.eraseDups_append]
  split
  · next known => simp [List.removeAll, known]
  · next new => simp [List.removeAll, new, List.eraseDups_cons]

namespace ItemRef

variable {loaded more : List (FullId × Bool)} {before middle after : List ItemRef}

/-- What a list of references becomes. Its entries that are embedded or loaded stay as they were, in their
order. Behind them come the loaded ids that it lacked, each once, in the order of their first items and with
the marks of these. -/
def Reconciled (loaded : List (FullId × Bool)) (before after : List ItemRef) : Prop :=
  ∃ added : List ItemRef,
    after = before.filter (fun ref => ref.id.isEmbedded ∨ ref.id ∈ loaded.map (·.1)) ++ added ∧
    added.map (·.id) = (loaded.map (·.1)).eraseDups.filter (· ∉ before.map (·.id)) ∧
    ∀ ref ∈ added, loaded.find? (·.1 == ref.id) = some (ref.id, ref.enabled)

theorem addMissing_eq (refs : List ItemRef) (item : FullId × Bool) :
    addMissing refs item = if item.1 ∈ refs.map (·.id) then refs else refs ++ [⟨item.1, item.2⟩] := by
  unfold addMissing
  simp only [List.any_eq_true, beq_iff_eq, List.mem_map]

/-- The induction adds loaded items behind the others, so that the first item with an id counts. -/
theorem foldl_addMissing (kept : List ItemRef) (loaded : List (FullId × Bool)) :
    ∃ added : List ItemRef, loaded.foldl addMissing kept = kept ++ added ∧
      added.map (·.id) = (loaded.map (·.1)).eraseDups.filter (· ∉ kept.map (·.id)) ∧
      ∀ ref ∈ added, loaded.find? (·.1 == ref.id) = some (ref.id, ref.enabled) := by
  induction loaded using List.reverseRecOn with
  | nil => exact ⟨[], by simp⟩
  | append_singleton loaded item inductionHypothesis =>
      obtain ⟨added, same, ids, marks⟩ := inductionHypothesis
      have marksLater : ∀ ref ∈ added,
          (loaded ++ [item]).find? (·.1 == ref.id) = some (ref.id, ref.enabled) := by
        intro ref member
        rw [List.find?_append, marks ref member, Option.some_or]
      rw [List.foldl_append, same, List.foldl_cons, List.foldl_nil, addMissing_eq, List.map_append,
        ids, List.map_append, List.map_singleton, eraseDups_concat]
      split
      · next known =>
        refine ⟨added, rfl, ?_, marksLater⟩
        rw [ids]
        split
        · rfl
        · next unseen =>
          have listed : item.1 ∈ kept.map (·.id) := by
            simpa [unseen, List.mem_eraseDups] using known
          have dropped : [item.1].filter (· ∉ kept.map (·.id)) = [] := by simpa using listed
          rw [List.filter_append, dropped, List.append_nil]
      · next new =>
        have unlisted : item.1 ∉ kept.map (·.id) := fun listed => new (List.mem_append_left _ listed)
        have unseen : item.1 ∉ loaded.map (·.1) := by
          refine fun seen => new (List.mem_append_right _ (List.mem_filter.2 ⟨?_, by simpa using unlisted⟩))
          exact List.mem_eraseDups.2 seen
        have taken : [item.1].filter (· ∉ kept.map (·.id)) = [item.1] := by simpa using unlisted
        refine ⟨added ++ [⟨item.1, item.2⟩], List.append_assoc _ _ _, ?_, ?_⟩
        · rw [if_neg unseen, List.filter_append, taken, List.map_append, ids, List.map_singleton]
        · have first : loaded.find? (·.1 == item.1) = none := by
            rw [List.find?_eq_none]
            intro other member same
            exact unseen (List.mem_map.2 ⟨other, member, eq_of_beq same⟩)
          refine List.forall_mem_append.2 ⟨marksLater, List.forall_mem_singleton.2 ?_⟩
          rw [List.find?_append, first, Option.none_or]
          exact List.find?_cons_of_pos (beq_self_eq_true item.1)

theorem isAvailable_iff {ref : ItemRef} :
    isAvailable loaded ref = true ↔ ref.id.isEmbedded = true ∨ ref.id ∈ loaded.map (·.1) := by
  simp only [isAvailable, Bool.or_eq_true, List.any_eq_true, beq_iff_eq, List.mem_map]

/-- Bringing a list in line with the loaded items reconciles it with them. -/
theorem sync_reconciled (loaded : List (FullId × Bool)) (refs : List ItemRef) :
    Reconciled loaded refs (sync loaded refs) := by
  have kept : refs.filter (isAvailable loaded) =
      refs.filter (fun ref => ref.id.isEmbedded ∨ ref.id ∈ loaded.map (·.1)) := by
    refine List.filter_congr fun ref _ => Bool.eq_iff_iff.2 ?_
    rw [isAvailable_iff, decide_eq_true_eq]
  obtain ⟨added, same, ids, marks⟩ := foldl_addMissing (refs.filter (isAvailable loaded)) loaded
  refine ⟨added, kept ▸ same, ?_, marks⟩
  rw [ids]
  -- A loaded id that the list has is not taken out of it.
  refine List.filter_congr fun id member => decide_eq_decide.2 (not_congr ?_)
  have isLoaded := List.mem_eraseDups.1 member
  constructor
  · exact fun listed => List.map_subset _ (List.filter_subset_self refs) listed
  · intro listed
    obtain ⟨ref, there, rfl⟩ := List.mem_map.1 listed
    exact List.mem_map_of_mem (List.mem_filter.2 ⟨there, isAvailable_iff.2 (.inr isLoaded)⟩)

/-- A list is in line with the loaded items: it has no others but embedded ones, and it has all of them. -/
structure InLine (loaded : List (FullId × Bool)) (refs : List ItemRef) : Prop where
  found : ∀ ref ∈ refs, ref.id.isEmbedded = true ∨ ref.id ∈ loaded.map (·.1)
  complete : ∀ id ∈ loaded.map (·.1), id ∈ refs.map (·.id)

theorem Reconciled.inLine (reconciled : Reconciled loaded before after) : InLine loaded after := by
  obtain ⟨added, rfl, ids, _⟩ := reconciled
  have new {id : FullId} : id ∈ added.map (·.id) ↔
      id ∈ loaded.map (·.1) ∧ id ∉ before.map (·.id) := by
    rw [ids, List.mem_filter, List.mem_eraseDups, decide_eq_true_eq]
  constructor
  · intro ref member
    rcases List.mem_append.1 member with old | isNew
    · exact of_decide_eq_true (List.mem_filter.1 old).2
    · exact .inr (new.1 (List.mem_map_of_mem isNew)).1
  · intro id isLoaded
    rw [List.map_append, List.mem_append]
    by_cases listed : id ∈ before.map (·.id)
    · obtain ⟨ref, there, rfl⟩ := List.mem_map.1 listed
      exact .inl (List.mem_map_of_mem (List.mem_filter.2 ⟨there, decide_eq_true (.inr isLoaded)⟩))
    · exact .inr (new.2 ⟨isLoaded, listed⟩)

/-- A list that has all loaded items loses what cannot be found, and that is all. -/
theorem Reconciled.eq_filter (reconciled : Reconciled loaded before after)
    (complete : ∀ id ∈ loaded.map (·.1), id ∈ before.map (·.id)) :
    after = before.filter (fun ref => ref.id.isEmbedded ∨ ref.id ∈ loaded.map (·.1)) := by
  obtain ⟨added, rfl, ids, _⟩ := reconciled
  have none : added.map (·.id) = [] := by
    rw [ids, List.filter_eq_nil_iff]
    intro id member isNew
    exact of_decide_eq_true isNew (complete id (List.mem_eraseDups.1 member))
  rw [List.map_eq_nil_iff.1 none, List.append_nil]

/-- A list that is in line stays as it is. -/
theorem InLine.unchanged (inLine : InLine loaded before) (reconciled : Reconciled loaded before after) :
    after = before := by
  rw [reconciled.eq_filter inLine.complete, List.filter_eq_self]
  exact fun ref member => decide_eq_true (inLine.found ref member)

/-- Items that come and go leave a list as it was, unless they are embedded. -/
theorem InLine.restored (inLine : InLine loaded before)
    (wider : ∀ id ∈ loaded.map (·.1), id ∈ more.map (·.1))
    (foreign : ∀ id ∈ more.map (·.1), id ∉ loaded.map (·.1) → id.isEmbedded = false)
    (grown : Reconciled more before middle) (back : Reconciled loaded middle after) : after = before := by
  obtain ⟨added, same, ids, _⟩ := grown
  have kept : before.filter (fun ref => ref.id.isEmbedded ∨ ref.id ∈ more.map (·.1)) = before :=
    List.filter_eq_self.2 fun ref member =>
      decide_eq_true ((inLine.found ref member).imp_right (wider ref.id))
  rw [kept] at same
  have complete : ∀ id ∈ loaded.map (·.1), id ∈ middle.map (·.id) := by
    intro id isLoaded
    rw [same, List.map_append]
    exact List.mem_append_left _ (inLine.complete id isLoaded)
  have stays : before.filter (fun ref => ref.id.isEmbedded ∨ ref.id ∈ loaded.map (·.1)) = before :=
    List.filter_eq_self.2 fun ref member => decide_eq_true (inLine.found ref member)
  have goes : added.filter (fun ref => ref.id.isEmbedded ∨ ref.id ∈ loaded.map (·.1)) = [] := by
    rw [List.filter_eq_nil_iff]
    intro ref member
    have isNew : ref.id ∈ added.map (·.id) := List.mem_map_of_mem member
    rw [ids, List.mem_filter, List.mem_eraseDups, decide_eq_true_eq] at isNew
    have unloaded : ref.id ∉ loaded.map (·.1) := fun isLoaded => isNew.2 (inLine.complete ref.id isLoaded)
    rw [decide_eq_true_eq, foreign ref.id isNew.1 unloaded]
    simpa using unloaded
  rw [back.eq_filter complete, same, List.filter_append, stays, goes, List.append_nil]

end ItemRef

/-! Ids of plugins -/

/-- The lists of a config that follow the plugins. -/
inductive ListKind where
  | aliases
  | texts
  | hooks (kind : HookKind)
deriving DecidableEq, Repr

/-- The ids of a plugin's items for a list. -/
def Plugin.ids (plugin : Plugin) : ListKind → List FullId
  | .aliases => plugin.aliases.map fun item => ⟨plugin.id, item.rule.id⟩
  | .texts => plugin.texts.map fun set => ⟨plugin.id, set.id⟩
  | .hooks kind => (plugin.hooks.filter (·.action.kind == kind)).map fun hook => ⟨plugin.id, hook.id⟩

theorem Plugin.plugin_of_mem_ids {plugin : Plugin} {kind : ListKind} {id : FullId}
    (member : id ∈ plugin.ids kind) : id.plugin = plugin.id := by
  cases kind with
  | aliases =>
      obtain ⟨item, -, rfl⟩ := List.mem_map.1 member
      rfl
  | texts =>
      obtain ⟨set, -, rfl⟩ := List.mem_map.1 member
      rfl
  | hooks kind =>
      obtain ⟨hook, -, rfl⟩ := List.mem_map.1 member
      rfl

namespace Plugins

variable {plugins : Plugins}

/-- The ids of all items for a list with their marks. -/
def ids (plugins : Plugins) : ListKind → List (FullId × Bool)
  | .aliases => plugins.aliasIds
  | .texts => plugins.textIds
  | .hooks kind => plugins.hookIds kind

theorem mem_ids {kind : ListKind} {id : FullId} :
    id ∈ (plugins.ids kind).map (·.1) ↔ ∃ plugin ∈ plugins, id ∈ plugin.ids kind := by
  have same : (plugins.ids kind).map (·.1) = plugins.flatMap (·.ids kind) := by
    cases kind with
    | aliases =>
        simp [ids, aliasIds, aliases, items, Plugin.items, Plugin.ids, List.map_flatMap,
          Function.comp_def]
    | texts =>
        simp [ids, textIds, texts, items, Plugin.items, Plugin.ids, List.map_flatMap,
          Function.comp_def]
    | hooks kind =>
        simp [ids, hookIds, hooks, items, Plugin.items, Plugin.ids, List.map_flatMap,
          List.filter_flatMap, List.filter_map, Function.comp_def]
  rw [same, List.mem_flatMap]

theorem mem_deciders {id : FullId} : id ∈ plugins.deciders.map (·.1) ↔
    ∃ plugin ∈ plugins, id ∈ plugin.deciders.map fun decider => ⟨plugin.id, decider.id⟩ := by
  simp [deciders, items, Plugin.items, List.map_flatMap, Function.comp_def]

theorem isSome_lookup? {α : Type} {id : FullId} {items : List (FullId × α)} :
    (lookup? id items).isSome = true ↔ id ∈ items.map (·.1) := by
  simp [lookup?, List.find?_isSome]

theorem isSome_plugin? {id : String} :
    (plugins.plugin? id).isSome = true ↔ id ∈ plugins.map (·.id) := by
  simp [plugin?, List.find?_isSome]

section Further

variable {further all : Plugins} {id : FullId}

theorem mem_ids_of_perm (same : all.Perm (plugins ++ further)) (kind : ListKind) :
    id ∈ (all.ids kind).map (·.1) ↔
      id ∈ (plugins.ids kind).map (·.1) ∨ id ∈ (further.ids kind).map (·.1) := by
  simp only [mem_ids, same.mem_iff, List.mem_append, or_and_right, exists_or]

theorem mem_deciders_of_perm (same : all.Perm (plugins ++ further))
    (member : id ∈ plugins.deciders.map (·.1)) : id ∈ all.deciders.map (·.1) := by
  obtain ⟨plugin, loaded, listed⟩ := mem_deciders.1 member
  exact mem_deciders.2 ⟨plugin, same.mem_iff.2 (List.mem_append_left _ loaded), listed⟩

/-- Only a plugin with the reserved id has embedded items. -/
theorem isEmbedded_of_mem_ids {kind : ListKind} (member : id ∈ (plugins.ids kind).map (·.1))
    (foreign : ∀ plugin ∈ plugins, plugin.id ≠ FullId.embeddedPlugin) : id.isEmbedded = false := by
  obtain ⟨plugin, loaded, listed⟩ := mem_ids.1 member
  unfold FullId.isEmbedded
  rw [Plugin.plugin_of_mem_ids listed]
  exact beq_false_of_ne (foreign plugin loaded)

end Further

end Plugins

/-! Configs -/

namespace Config

variable {config : Config} {now : Instant} {plugins : Plugins}

/-- A list of a config. A missing list of hooks is an empty one. -/
def list (config : Config) : ListKind → List ItemRef
  | .aliases => config.aliases
  | .texts => config.texts
  | .hooks kind => (config.hooks kind).getD []

theorem sync_eq : (config.sync now plugins).1 = { config.synced plugins with
    lastModified := if config.differs (config.synced plugins) then now else config.lastModified } := by
  unfold sync
  dsimp only
  split <;> rfl

theorem synced_list (kind : ListKind) :
    (config.synced plugins).list kind = ItemRef.sync (plugins.ids kind) (config.list kind) := by
  cases kind <;> rfl

theorem isDeciderAvailable_iff {id : FullId} : isDeciderAvailable plugins id = true ↔
    id.isEmbedded = true ∨ id ∈ plugins.deciders.map (·.1) := by
  rw [isDeciderAvailable, Bool.or_eq_true, Plugins.decider?, Plugins.isSome_lookup?]

/-- What a config becomes that is brought in line with plugins. -/
structure Reconciled (before : Config) (plugins : Plugins) (after : Config) : Prop where
  lists : ∀ kind, ItemRef.Reconciled (plugins.ids kind) (before.list kind) (after.list kind)
  /-- There is a list for each kind of hooks. -/
  hooks : ∀ kind, (after.hooks kind).isSome = true
  decider : after.deciderId =
    if before.deciderId.isEmbedded ∨ before.deciderId ∈ plugins.deciders.map (·.1) then before.deciderId
    else standardDecider
  dndDecider : after.dndDeciderId = before.dndDeciderId.map fun id =>
    if id.isEmbedded ∨ id ∈ plugins.deciders.map (·.1) then id else standardDndDecider
  preferences : ∀ plugin : String, after.preferences[plugin]? =
    if plugin ∈ plugins.map (·.id) then before.preferences[plugin]? else none
  /-- What does not depend on plugins. -/
  others : after.version = before.version ∧ after.defaultRoll = before.defaultRoll ∧
    after.switches = before.switches ∧ after.own = before.own

theorem sync_reconciled (config : Config) (now : Instant) (plugins : Plugins) :
    Reconciled config plugins (config.sync now plugins).1 := by
  rw [sync_eq]
  exact {
    lists kind := by
      change ItemRef.Reconciled _ _ ((config.synced plugins).list kind)
      rw [synced_list]
      exact ItemRef.sync_reconciled _ _
    hooks _ := rfl
    decider := by
      change (if _ then _ else _) = _
      simp only [isDeciderAvailable_iff]
    dndDecider := by
      change config.dndDeciderId.map _ = _
      simp only [isDeciderAvailable_iff]
    preferences plugin := by
      change (config.preferences.filter fun plugin _ => (plugins.plugin? plugin).isSome)[plugin]? = _
      rw [Std.ExtTreeMap.getElem?_filter']
      cases config.preferences[plugin]? with
      | none => rw [Option.filter_none, ite_self]
      | some values => simp only [Option.filter_some, Plugins.isSome_plugin?]
    others := ⟨rfl, rfl, rfl, rfl⟩ }

/-- The deciders of a config are embedded or loaded, and its settings belong to loaded plugins. -/
structure Findable (config : Config) (plugins : Plugins) : Prop where
  decider : config.deciderId.isEmbedded = true ∨ config.deciderId ∈ plugins.deciders.map (·.1)
  dndDecider : ∀ id, config.dndDeciderId = some id →
    id.isEmbedded = true ∨ id ∈ plugins.deciders.map (·.1)
  preferences : ∀ plugin ∈ config.preferences, plugin ∈ plugins.map (·.id)

/-- A config is in line with plugins. It has all of their items and only ids that can be found. -/
structure InLine (config : Config) (plugins : Plugins) : Prop extends config.Findable plugins where
  lists : ∀ kind, ItemRef.InLine (plugins.ids kind) (config.list kind)
  hooks : ∀ kind, (config.hooks kind).isSome = true

theorem Reconciled.inLine {after : Config} (reconciled : Reconciled config plugins after) :
    after.InLine plugins where
  lists kind := (reconciled.lists kind).inLine
  hooks := reconciled.hooks
  decider := by
    rw [reconciled.decider]
    split
    · next found => exact found
    · exact .inl (by decide)
  dndDecider id there := by
    rw [reconciled.dndDecider] at there
    obtain ⟨before, _, rfl⟩ := Option.map_eq_some_iff.1 there
    split
    · next found => exact found
    · exact .inl (by decide)
  preferences plugin member := by
    rw [Std.ExtTreeMap.mem_iff_isSome_getElem?, reconciled.preferences plugin] at member
    by_contra unloaded
    rw [if_neg unloaded] at member
    cases member

/-- Configs with the same lists, deciders and settings are the same, but for their times of change. -/
theorem eq_of_lists {left right : Config} (lists : ∀ kind, left.list kind = right.list kind)
    (leftHooks : ∀ kind, (left.hooks kind).isSome = true)
    (rightHooks : ∀ kind, (right.hooks kind).isSome = true) (decider : left.deciderId = right.deciderId)
    (dndDecider : left.dndDeciderId = right.dndDeciderId)
    (preferences : ∀ plugin : String, left.preferences[plugin]? = right.preferences[plugin]?)
    (others : left.version = right.version ∧ left.defaultRoll = right.defaultRoll ∧
      left.switches = right.switches ∧ left.own = right.own) :
    { left with lastModified := right.lastModified } = right := by
  have hooks : left.hooks = right.hooks := by
    funext kind
    obtain ⟨refs, isLeft⟩ := Option.isSome_iff_exists.1 (leftHooks kind)
    obtain ⟨others, isRight⟩ := Option.isSome_iff_exists.1 (rightHooks kind)
    have same : (left.hooks kind).getD [] = (right.hooks kind).getD [] := lists (.hooks kind)
    rw [isLeft, isRight] at same ⊢
    exact congrArg some same
  have aliases : left.aliases = right.aliases := lists .aliases
  have texts : left.texts = right.texts := lists .texts
  obtain ⟨version, defaultRoll, switches, own⟩ := others
  cases right
  simp_all only [Std.ExtTreeMap.ext_getElem? preferences]

variable {more after : Config} {further all : Plugins}

/-- Deciders and settings that can be found stay as they are. -/
theorem Findable.unchanged (findable : config.Findable plugins)
    (reconciled : Reconciled config plugins after) :
    after.deciderId = config.deciderId ∧ after.dndDeciderId = config.dndDeciderId ∧
      ∀ plugin : String, after.preferences[plugin]? = config.preferences[plugin]? := by
  refine ⟨?_, ?_, fun plugin => ?_⟩
  · rw [reconciled.decider, if_pos findable.decider]
  · rw [reconciled.dndDecider]
    cases there : config.dndDeciderId with
    | none => rfl
    | some id => rw [Option.map_some, if_pos (findable.dndDecider id there)]
  · rw [reconciled.preferences]
    split
    · rfl
    · next unloaded => exact (Std.ExtTreeMap.getElem?_eq_none (mt (findable.preferences plugin) unloaded)).symm

/-- What can be found is found among more plugins too. -/
theorem Findable.wider (findable : config.Findable plugins) (same : all.Perm (plugins ++ further)) :
    config.Findable all where
  decider := findable.decider.imp_right (Plugins.mem_deciders_of_perm same)
  dndDecider id there := (findable.dndDecider id there).imp_right (Plugins.mem_deciders_of_perm same)
  preferences plugin kept := by
    obtain ⟨loaded, member, named⟩ := List.mem_map.1 (findable.preferences plugin kept)
    exact List.mem_map.2 ⟨loaded, same.mem_iff.2 (List.mem_append_left _ member), named⟩

/-- A config that is in line stays as it is. -/
theorem InLine.unchanged (inLine : config.InLine plugins) (reconciled : Reconciled config plugins after) :
    { after with lastModified := config.lastModified } = config := by
  obtain ⟨decider, dndDecider, preferences⟩ := inLine.toFindable.unchanged reconciled
  exact eq_of_lists (fun kind => (inLine.lists kind).unchanged (reconciled.lists kind)) reconciled.hooks
    inLine.hooks decider dndDecider preferences reconciled.others

/-- Plugins that come and go leave a config as it was. -/
theorem InLine.restored (inLine : config.InLine plugins) (same : all.Perm (plugins ++ further))
    (foreign : ∀ plugin ∈ further, plugin.id ≠ FullId.embeddedPlugin)
    (grown : Reconciled config all more) (back : Reconciled more plugins after) :
    { after with lastModified := config.lastModified } = config := by
  obtain ⟨decider, dndDecider, preferences⟩ := (inLine.toFindable.wider same).unchanged grown
  have findable : more.Findable plugins := {
    decider := decider ▸ inLine.decider
    dndDecider := dndDecider ▸ inLine.dndDecider
    preferences plugin kept := by
      rw [Std.ExtTreeMap.mem_iff_isSome_getElem?, preferences,
        ← Std.ExtTreeMap.mem_iff_isSome_getElem?] at kept
      exact inLine.preferences plugin kept }
  obtain ⟨deciderBack, dndDeciderBack, preferencesBack⟩ := findable.unchanged back
  refine eq_of_lists (fun kind => ?_) back.hooks inLine.hooks (deciderBack.trans decider)
    (dndDeciderBack.trans dndDecider) (fun plugin => (preferencesBack plugin).trans (preferences plugin)) ?_
  · refine (inLine.lists kind).restored (fun id member => ?_) (fun id member unloaded => ?_)
      (grown.lists kind) (back.lists kind)
    · exact (Plugins.mem_ids_of_perm same kind).2 (.inl member)
    · have isNew := ((Plugins.mem_ids_of_perm same kind).1 member).resolve_left unloaded
      exact Plugins.isEmbedded_of_mem_ids isNew foreign
  · obtain ⟨version, defaultRoll, switches, own⟩ := back.others
    obtain ⟨grownVersion, grownDefaultRoll, grownSwitches, grownOwn⟩ := grown.others
    exact ⟨version.trans grownVersion, defaultRoll.trans grownDefaultRoll, switches.trans grownSwitches,
      own.trans grownOwn⟩

/-- A config is in line after the plugins were brought in, so this does nothing a second time. -/
theorem InLine.sync_eq (inLine : config.InLine plugins) (now : Instant) :
    config.sync now plugins = (config, false) := by
  have same : config.synced plugins = config := by
    have kept := inLine.unchanged (config.sync_reconciled now plugins)
    rw [Config.sync_eq] at kept
    exact kept
  have still : config.differs config = false := by simp [differs]
  unfold sync
  rw [same]
  simp only [still, Bool.false_eq_true, if_false]

/-- Bringing a config in line with plugins reconciles it with them and nothing else. A second time changes
nothing. If further plugins come, wherever they stand, and go again, the config is as it was but for its time
of change, as long as none of them has the reserved id. -/
theorem sync_settles (config : Config) (now : Instant) (plugins : Plugins) :
    Reconciled config plugins (config.sync now plugins).1 ∧
    (∀ later, (config.sync now plugins).1.sync later plugins = ((config.sync now plugins).1, false)) ∧
    ∀ further all : Plugins, all.Perm (plugins ++ further) →
      (∀ plugin ∈ further, plugin.id ≠ FullId.embeddedPlugin) → ∀ later last,
        { (((config.sync now plugins).1.sync later all).1.sync last plugins).1 with
            lastModified := (config.sync now plugins).1.lastModified } = (config.sync now plugins).1 := by
  have reconciled := config.sync_reconciled now plugins
  have inLine := reconciled.inLine
  refine ⟨reconciled, inLine.sync_eq, fun further all same foreign later last => ?_⟩
  exact inLine.restored same foreign (sync_reconciled _ later all) (sync_reconciled _ last plugins)

end Config

/-- A plugin with one alias rule. -/
def Plugin.ofAlias (plugin item : String) : Plugin where
  id := plugin
  name := plugin
  version := 1
  deciders := []
  aliases := [⟨⟨item, item, "", .command, .literal "dice" "r", true⟩, none⟩]
  texts := []
  hooks := []
  preferences := []

namespace Config

/-- The config of a new channel with one plugin that brings an alias rule. -/
def withAlias (item : String) : Config :=
  ((standard .epoch).sync .epoch [Plugin.ofAlias "p" item]).1

/-- A second plugin comes in front of the first one and goes again. -/
theorem sync_settles_guest :
    (∀ plugin ∈ [Plugin.ofAlias "q" "dice"], plugin.id ≠ FullId.embeddedPlugin) ∧
    ((withAlias "dice").sync .epoch [.ofAlias "q" "dice", .ofAlias "p" "dice"]).1 ≠ withAlias "dice" ∧
    { (((withAlias "dice").sync .epoch [.ofAlias "q" "dice", .ofAlias "p" "dice"]).1.sync
        .epoch [.ofAlias "p" "dice"]).1 with
      lastModified := (withAlias "dice").lastModified } = withAlias "dice" := by
  have foreign : ∀ plugin ∈ [Plugin.ofAlias "q" "dice"], plugin.id ≠ FullId.embeddedPlugin :=
    List.forall_mem_singleton.2 (by decide)
  obtain ⟨-, -, restores⟩ := sync_settles (standard .epoch) .epoch [Plugin.ofAlias "p" "dice"]
  refine ⟨foreign, fun same => ?_, restores _ _ (List.Perm.swap _ _ []) foreign .epoch .epoch⟩
  have aliases := congrArg Config.aliases same
  revert aliases
  decide +kernel

end Config

end Tabletop
