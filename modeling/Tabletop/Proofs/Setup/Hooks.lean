/-
This file proves which hooks of the loaded plugins run in a new channel.

The ids of a channel's hooks stand in one list for each kind, but all hooks are kept together and found by their
full ids alone. Of several hooks with one id, of whatever kinds, the last one is found.
-/

import Tabletop.Proofs.Config.Sync
import Tabletop.Setup

namespace Tabletop

namespace Plugins

variable {α : Type}

/-- The hooks of a kind that new channels enable, in the order of the plugins and of their declarations. -/
def enabledHooks (plugins : Plugins) (kind : HookKind) : List HookAction :=
  plugins.flatMap fun plugin =>
    (plugin.hooks.filter fun hook => hook.action.kind = kind ∧ hook.defaultEnabled = true).map (·.action)

/-- The items that no later one replaces under the same id. -/
def lasting : List (FullId × α) → List (FullId × α)
  | [] => []
  | item :: later => if item.1 ∈ later.map (·.1) then lasting later else item :: lasting later

/-- The hooks of `enabledHooks` whose ids no later hook takes. -/
def lastingHooks (plugins : Plugins) (kind : HookKind) : List HookAction :=
  ((lasting plugins.hooks).filter fun item =>
    item.2.action.kind = kind ∧ item.2.defaultEnabled = true).map (·.2.action)

/-- Hooks of one kind have different ids. -/
def HooksDiffer (plugins : Plugins) : Prop :=
  plugins.hooks.Pairwise fun earlier later =>
    earlier.2.action.kind = later.2.action.kind → earlier.1 ≠ later.1

theorem lasting_of_nodup {items : List (FullId × α)} (different : (items.map (·.1)).Nodup) :
    lasting items = items := by
  induction items with
  | nil => rfl
  | cons item later inductionHypothesis =>
      rw [List.map_cons, List.nodup_cons] at different
      rw [lasting, if_neg different.1, inductionHypothesis different.2]

theorem enabledHooks_eq (plugins : Plugins) (kind : HookKind) :
    plugins.enabledHooks kind = (plugins.hooks.filter fun item =>
      item.2.action.kind = kind ∧ item.2.defaultEnabled = true).map (·.2.action) := by
  simp only [enabledHooks, hooks, items, Plugin.items, List.filter_flatMap, List.map_flatMap,
    List.filter_map, List.map_map]
  rfl

theorem lookup?_append (id : FullId) (front back : List (FullId × α)) :
    lookup? id (front ++ back) = (lookup? id back).or (lookup? id front) := by
  simp only [lookup?, List.reverse_append, List.find?_append, Option.map_or]

theorem mem_of_lookup? {id : FullId} {items : List (FullId × α)} {value : α}
    (found : lookup? id items = some value) : (id, value) ∈ items := by
  obtain ⟨item, first, rfl⟩ := Option.map_eq_some_iff.1 found
  have same : item.1 = id := by simpa using List.find?_some first
  exact same ▸ List.mem_reverse.1 (List.mem_of_find?_eq_some first)

/-- Of the items in front of others with the id, none is found. -/
theorem lookup?_of_mem {id : FullId} {front back : List (FullId × α)} (listed : id ∈ back.map (·.1)) :
    lookup? id (front ++ back) = lookup? id back := by
  obtain ⟨value, found⟩ := Option.isSome_iff_exists.1 (isSome_lookup?.2 listed)
  rw [lookup?_append, found, Option.some_or]

theorem lookup?_of_last {item : FullId × α} {later : List (FullId × α)}
    (last : item.1 ∉ later.map (·.1)) : lookup? item.1 (item :: later) = some item.2 := by
  have missing : lookup? item.1 later = none := by
    rw [← Option.not_isSome_iff_eq_none, isSome_lookup?]
    exact last
  rw [← List.singleton_append, lookup?_append, missing, Option.none_or]
  simp [lookup?]

/-- Looking up the ids of the enabled hooks of a kind finds those that last. The induction takes hooks off the
front, and `front` holds those that were taken. A hook that is replaced is replaced by one of another kind. -/
theorem found_eq_lasting (kind : HookKind) {hooks : List (FullId × Hook)}
    (differ : hooks.Pairwise fun earlier later =>
      earlier.2.action.kind = later.2.action.kind → earlier.1 ≠ later.1) (front : List (FullId × Hook)) :
    ((((hooks.filter fun item => item.2.action.kind = kind ∧ item.2.defaultEnabled = true).map
        (·.1)).filterMap (lookup? · (front ++ hooks))).map (·.action)).filter (·.kind == kind) =
      ((lasting hooks).filter fun item =>
        item.2.action.kind = kind ∧ item.2.defaultEnabled = true).map (·.2.action) := by
  induction hooks generalizing front with
  | nil => rfl
  | cons item later inductionHypothesis =>
      obtain ⟨differsFromLater, laterDiffer⟩ := List.pairwise_cons.1 differ
      have rest := inductionHypothesis laterDiffer (front ++ [item])
      rw [List.append_assoc, List.singleton_append] at rest
      have found : lookup? item.1 (front ++ item :: later) = lookup? item.1 (item :: later) :=
        lookup?_of_mem (by simp)
      by_cases inUse : item.2.action.kind = kind ∧ item.2.defaultEnabled = true
      · rw [List.filter_cons_of_pos (by simpa using inUse), List.map_cons, List.filterMap_cons, found]
        by_cases taken : item.1 ∈ later.map (·.1)
        · obtain ⟨other, isOther⟩ := Option.isSome_iff_exists.1 (isSome_lookup?.2 taken)
          have foreign : other.action.kind ≠ kind := by
            intro same
            exact differsFromLater _ (mem_of_lookup? isOther) (inUse.1.trans same.symm) rfl
          have replaced : lookup? item.1 (item :: later) = some other := by
            rw [← List.singleton_append, lookup?_of_mem taken, isOther]
          simp only [replaced, lasting, if_pos taken, List.map_cons]
          rw [List.filter_cons_of_neg (by simpa using foreign), rest]
        · simp only [lookup?_of_last taken, lasting, if_neg taken, List.map_cons]
          rw [List.filter_cons_of_pos (by simpa using inUse.1), rest,
            List.filter_cons_of_pos (by simpa using inUse), List.map_cons]
      · rw [List.filter_cons_of_neg (by simpa using inUse), rest, lasting]
        split
        · rfl
        · rw [List.filter_cons_of_neg (by simpa using inUse)]

/-- Hooks of one kind are listed with different ids. -/
theorem HooksDiffer.hookIds_nodup {plugins : Plugins} (differ : plugins.HooksDiffer) (kind : HookKind) :
    ((plugins.hookIds kind).map (·.1)).Nodup := by
  simp only [hookIds, List.map_map]
  rw [List.Nodup, List.pairwise_map, List.pairwise_filter]
  refine differ.imp fun {earlier later} apart isEarlier isLater => ?_
  exact apart ((eq_of_beq isEarlier).trans (eq_of_beq isLater).symm)

end Plugins

/-- A list that starts empty gets all loaded items in their order, if their ids differ. -/
theorem ItemRef.sync_nil {loaded : List (FullId × Bool)} (different : (loaded.map (·.1)).Nodup) :
    sync loaded [] = loaded.map fun item => ⟨item.1, item.2⟩ := by
  change loaded.foldl addMissing [] = _
  induction loaded using List.reverseRecOn with
  | nil => rfl
  | append_singleton loaded item inductionHypothesis =>
      rw [List.map_append, List.map_singleton] at different
      obtain ⟨loadedDifferent, _, apart⟩ := List.nodup_append.1 different
      have new : item.1 ∉ (loaded.map fun item => (⟨item.1, item.2⟩ : ItemRef)).map (·.id) := by
        intro listed
        rw [List.map_map] at listed
        exact apart _ listed _ (List.mem_singleton_self _) rfl
      rw [List.foldl_append, inductionHypothesis loadedDifferent, List.foldl_cons, List.foldl_nil,
        addMissing_eq, if_neg new, List.map_append, List.map_singleton]

namespace Setup

/-- The config of a new channel, in line with the plugins, with these plugins. -/
def fresh (now : Instant) (plugins : Plugins) : Setup :=
  ⟨((Config.standard now).sync now plugins).1, plugins⟩

/-- A new channel enables the hooks that want it. -/
theorem fresh_enabled (now : Instant) {plugins : Plugins} (differ : plugins.HooksDiffer) (kind : HookKind) :
    enabled (((fresh now plugins).config.hooks kind).getD []) =
      (plugins.hooks.filter fun item =>
        item.2.action.kind = kind ∧ item.2.defaultEnabled = true).map (·.1) := by
  have refs : ((fresh now plugins).config.hooks kind).getD [] =
      (plugins.hookIds kind).map fun item => ⟨item.1, item.2⟩ := by
    rw [fresh, Config.sync_eq]
    exact ItemRef.sync_nil (differ.hookIds_nodup kind)
  rw [refs, enabled, Plugins.hookIds]
  simp only [List.filter_map, List.map_map, List.filter_filter]
  refine congrArg _ (List.filter_congr fun item _ => ?_)
  simp [and_comm, beq_eq_decide]

/-- In a new channel those hooks of a kind run that new channels enable and that no later hook replaces, in the
order of plugins and declarations. If all hooks have different ids, these are all that new channels enable. -/
theorem hooks_fresh (now : Instant) (plugins : Plugins) (differ : plugins.HooksDiffer) (kind : HookKind) :
    (fresh now plugins).hooks kind = plugins.lastingHooks kind ∧
      ((plugins.hooks.map (·.1)).Nodup → plugins.lastingHooks kind = plugins.enabledHooks kind) := by
  constructor
  · unfold hooks
    rw [fresh_enabled now differ kind]
    exact Plugins.found_eq_lasting kind differ []
  · intro different
    rw [Plugins.enabledHooks_eq, Plugins.lastingHooks, Plugins.lasting_of_nodup different]

end Setup

/-- A plugin with hooks. -/
def Plugin.ofHooks (plugin : String) (hooks : List Hook) : Plugin where
  id := plugin
  name := plugin
  version := 1
  deciders := []
  aliases := []
  texts := []
  hooks := hooks
  preferences := []

namespace Setup

/-- A plugin with two hooks of different kinds that share an id, and one with an id of its own. -/
def sharedIds : Plugins :=
  [.ofHooks "p" [⟨"mark", true, .beforeDiceRoll id⟩, ⟨"mark", true, .afterDiceRoll id⟩,
    ⟨"quiet", true, .beforeDiceRoll fun state => { state with quiet := true }⟩]]

theorem sharedIds_differ : sharedIds.HooksDiffer := by
  unfold Plugins.HooksDiffer
  decide +kernel

/-- Of the two hooks before the dice, the one that is replaced does not run. -/
theorem hooks_fresh_sharedIds :
    sharedIds.HooksDiffer ∧ (fresh .epoch sharedIds).hooks .beforeDiceRoll =
      [.beforeDiceRoll fun state => { state with quiet := true }] :=
  ⟨sharedIds_differ, (hooks_fresh .epoch sharedIds sharedIds_differ .beforeDiceRoll).1⟩

/-- A hook that new channels enable does not run, although the hooks of each kind have different ids. -/
theorem hooks_fresh_lost :
    sharedIds.HooksDiffer ∧
      (fresh .epoch sharedIds).hooks .beforeDiceRoll ≠ sharedIds.enabledHooks .beforeDiceRoll := by
  refine ⟨sharedIds_differ, fun same => ?_⟩
  have lengths := congrArg List.length same
  revert lengths
  decide +kernel

end Setup

end Tabletop
