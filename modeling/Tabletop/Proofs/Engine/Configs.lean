/-
This file proves that no config of an engine names something that cannot be found.

Plugins are replaced as a whole, and channels get their configs at different times. Each request that brings
in a config or plugins brings the configs in line with the plugins.
-/

import Tabletop.Proofs.Config.Sync
import Tabletop.Proofs.Engine.Apply
import Tabletop.Proofs.Engine.Dispatch

namespace Tabletop

/-! What can be found -/

/-- An item of a list is found by its id. -/
def Plugins.resolves (plugins : Plugins) : ListKind → FullId → Bool
  | .aliases, id => (plugins.alias? id).isSome
  | .texts, id => (plugins.textSet? id).isSome
  | .hooks _, id => (plugins.hook? id).isSome

/-- An id that is listed with a mark is the id of an item. -/
theorem Plugins.isSome_lookup?_of_listed {α : Type} {id : FullId} {items listed : List (FullId × α)}
    {mark : FullId × α → Bool} (part : listed ⊆ items)
    (member : id ∈ (listed.map fun item => (item.1, mark item)).map (·.1)) :
    (lookup? id items).isSome = true := by
  rw [List.map_map] at member
  exact isSome_lookup?.2 (List.map_subset _ part member)

theorem Plugins.resolves_of_mem_ids {plugins : Plugins} {kind : ListKind} {id : FullId}
    (member : id ∈ (plugins.ids kind).map (·.1)) : plugins.resolves kind id = true := by
  cases kind with
  | aliases => exact isSome_lookup?_of_listed (List.Subset.refl _) member
  | texts => exact isSome_lookup?_of_listed (List.Subset.refl _) member
  | hooks kind => exact isSome_lookup?_of_listed (List.filter_subset_self _) member

/-- All that a config names is embedded in it or found among the plugins. -/
structure Config.Resolved (config : Config) (plugins : Plugins) : Prop where
  decider : config.deciderId.isEmbedded = true ∨ (plugins.decider? config.deciderId).isSome = true
  dndDecider : ∀ id, config.dndDeciderId = some id →
    id.isEmbedded = true ∨ (plugins.decider? id).isSome = true
  lists : ∀ kind, ∀ ref ∈ config.list kind, ref.id.isEmbedded = true ∨ plugins.resolves kind ref.id = true
  preferences : ∀ plugin ∈ config.preferences, (plugins.plugin? plugin).isSome = true

theorem Config.InLine.resolved {config : Config} {plugins : Plugins} (inLine : config.InLine plugins) :
    config.Resolved plugins where
  decider := inLine.decider.imp_right Plugins.isSome_lookup?.2
  dndDecider id there := (inLine.dndDecider id there).imp_right Plugins.isSome_lookup?.2
  lists kind ref member := ((inLine.lists kind).found ref member).imp_right Plugins.resolves_of_mem_ids
  preferences plugin kept := Plugins.isSome_plugin?.2 (inLine.preferences plugin kept)

theorem Config.sync_resolved (config : Config) (now : Instant) (plugins : Plugins) :
    (config.sync now plugins).1.Resolved plugins :=
  (config.sync_reconciled now plugins).inLine.resolved

/-- The config for new channels names only what is embedded. -/
theorem Config.standard_resolved (now : Instant) (plugins : Plugins) :
    (Config.standard now).Resolved plugins where
  decider := .inl rfl
  dndDecider id there := by
    cases there
    exact .inl rfl
  lists kind ref member := by
    cases kind with
    | aliases =>
        obtain ⟨rule, _, rfl⟩ := List.mem_map.1 member
        exact .inl rfl
    | texts =>
        rw [List.mem_singleton.1 member]
        exact .inl rfl
    | hooks kind => cases member
  preferences plugin kept := absurd kept Std.ExtTreeMap.not_mem_empty

/-! Stores -/

namespace ConfigStore

variable {store : ConfigStore} {plugins : Plugins}

/-- All that the configs of a store name can be found. -/
structure Resolved (store : ConfigStore) (plugins : Plugins) : Prop where
  standard : store.standard.Resolved plugins
  channels : ∀ (channel : String) (config : Config), store.channels[channel]? = some config →
    config.Resolved plugins

theorem empty_resolved (now : Instant) (plugins : Plugins) : (empty now).Resolved plugins where
  standard := Config.standard_resolved now plugins
  channels channel config there := by
    change (∅ : Table Config)[channel]? = _ at there
    rw [Std.ExtTreeMap.getElem?_empty] at there
    cases there

theorem sync_resolved (store : ConfigStore) (now : Instant) (plugins : Plugins) :
    (store.sync now plugins).Resolved plugins where
  standard := store.standard.sync_resolved now plugins
  channels channel config there := by
    change (store.channels.map fun _ config => (config.sync now plugins).1)[channel]? = _ at there
    rw [Std.ExtTreeMap.getElem?_map] at there
    obtain ⟨before, _, rfl⟩ := Option.map_eq_some_iff.1 there
    exact before.sync_resolved now plugins

theorem Resolved.set (resolved : store.Resolved plugins) (channel : String) {config : Config}
    (found : config.Resolved plugins) : (store.set channel config).Resolved plugins where
  standard := resolved.standard
  channels other kept there := by
    change (store.channels.insert channel config)[other]? = _ at there
    rw [Table.get_insert] at there
    split at there
    · cases there
      exact found
    · exact resolved.channels other kept there

theorem get_set (store : ConfigStore) (channel : String) (config : Config) :
    (store.set channel config).get channel = config :=
  Std.ExtTreeMap.getD_insert_self

theorem set_set (store : ConfigStore) (channel : String) (first last : Config) :
    (store.set channel first).set channel last = store.set channel last := by
  unfold set
  rw [Table.insert_insert]

end ConfigStore

/-! Requests -/

/-- What is asked of an engine. -/
inductive Request where
  | withDefaultConfig (config : Config)
  | registerPlugins (plugins : Plugins)
  | loadConfig (channel text : String)
  | loadCard (text : String)
  | dispatch (command : Command)
  | apply (roll : Roll)

namespace Engine

variable {engine after : Engine} {now : Instant}

/-- The engine that a step leads to. A step that fails leaves it as it was. -/
def orStay {ε : Type} (engine : Engine) : Except ε Engine → Engine
  | .ok after => after
  | .error _ => engine

def perform (engine : Engine) (now : Instant) : Request → Engine
  | .withDefaultConfig config => engine.withDefaultConfig now config
  | .registerPlugins plugins => engine.registerPlugins now plugins
  | .loadConfig channel text => engine.orStay (engine.loadConfig now channel text)
  | .loadCard text => engine.orStay ((engine.loadCard now text).map (·.1))
  | .dispatch command => engine.orStay ((engine.dispatch now command).map (·.engine))
  | .apply roll => engine.orStay ((engine.apply now roll).map (·.engine))

theorem perform_loadConfig (engine : Engine) (now : Instant) (channel text : String) :
    engine.perform now (.loadConfig channel text) =
      engine.orStay (engine.loadConfig now channel text) := rfl

/-- Requests one after another, each with its time. -/
def performEach (engine : Engine) (requests : List (Instant × Request)) : Engine :=
  requests.foldl (fun engine (now, request) => engine.perform now request) engine

theorem performEach_concat (engine : Engine) (requests : List (Instant × Request)) (now : Instant)
    (request : Request) :
    engine.performEach (requests ++ [(now, request)]) =
      (engine.performEach requests).perform now request := by
  unfold performEach
  rw [List.foldl_append, List.foldl_cons, List.foldl_nil]

theorem orStay_error {ε : Type} (engine : Engine) (error : ε) : engine.orStay (.error error) = engine := rfl

theorem orStay_holds {ε : Type} {result : Except ε Engine} {holds : Engine → Prop}
    (held : holds engine) (kept : ∀ after, result = .ok after → holds after) :
    holds (engine.orStay result) := by
  cases result with
  | ok after => exact kept after rfl
  | error error => exact held

/-- A channel gets the config in the text, in line with the plugins, and nothing else happens. -/
theorem loadConfig_ok {channel text : String} (loaded : engine.loadConfig now channel text = .ok after) :
    ∃ config, Config.ofText now text = .ok config ∧
      after = { engine with
        configs := engine.configs.set channel (config.sync now engine.plugins).1 } := by
  obtain ⟨store, read, same⟩ := bind_eq_ok.1 loaded
  obtain ⟨config, decoded, rfl⟩ := map_eq_ok.1 read
  have changed : after = { engine with
      configs := (engine.configs.set channel config).set channel
        (((engine.configs.set channel config).get channel).sync now engine.plugins).1 } :=
    (Except.ok.inj same).symm
  rw [ConfigStore.get_set, ConfigStore.set_set] at changed
  exact ⟨config, decoded, changed⟩

theorem loadCard_ok {text name : String} (loaded : engine.loadCard now text = .ok (after, name)) :
    ∃ registry, after = engine.setRegistry registry := by
  obtain ⟨card, _, same⟩ := bind_eq_ok.1 loaded
  cases same
  exact ⟨_, rfl⟩

/-- All that the configs of an engine name can be found in its plugins. -/
def Resolved (engine : Engine) : Prop :=
  engine.configs.Resolved engine.plugins

/-- A request keeps all configs resolved. Those that touch no config touch no plugin either. -/
theorem perform_resolved (resolved : engine.Resolved) (now : Instant) (request : Request) :
    (engine.perform now request).Resolved := by
  cases request with
  | withDefaultConfig config => exact ConfigStore.sync_resolved _ now engine.plugins
  | registerPlugins plugins => exact ConfigStore.sync_resolved _ now plugins
  | loadConfig channel text =>
      refine orStay_holds resolved fun after loaded => ?_
      obtain ⟨config, _, rfl⟩ := loadConfig_ok loaded
      exact resolved.set channel (config.sync_resolved now engine.plugins)
  | loadCard text =>
      refine orStay_holds resolved fun after done => ?_
      obtain ⟨⟨after, name⟩, loaded, rfl⟩ := map_eq_ok.1 done
      obtain ⟨registry, rfl⟩ := loadCard_ok loaded
      exact resolved
  | dispatch command =>
      refine orStay_holds resolved fun after done => ?_
      obtain ⟨dispatched, handled, rfl⟩ := map_eq_ok.1 done
      have records := dispatch_records handled
      unfold Resolved
      rw [records.configs, records.plugins]
      exact resolved
  | apply roll =>
      refine orStay_holds resolved fun after done => ?_
      obtain ⟨applied, written, rfl⟩ := map_eq_ok.1 done
      obtain ⟨board, names, _, settled, _⟩ := apply_ok written
      rw [settled]
      exact resolved

/-- The induction is on the requests, and each of them keeps all configs resolved. -/
theorem performEach_keeps (resolved : engine.Resolved) (requests : List (Instant × Request)) :
    (engine.performEach requests).Resolved := by
  induction requests generalizing engine with
  | nil => exact resolved
  | cons request requests inductionHypothesis =>
      exact inductionHypothesis (perform_resolved resolved request.1 request.2)

/-- Whatever is asked of a new engine, its configs name only what is embedded or found among its plugins, and
they have settings of its plugins only. This holds for the config of new channels and for those of all others.
A text that no config can be read from leaves all of them as they are. -/
theorem performEach_resolved (now : Instant) (faces : Faces) (requests : List (Instant × Request)) :
    ((new now faces).performEach requests).Resolved ∧
      ∀ later channel text error,
        ((new now faces).performEach requests).loadConfig later channel text = .error error →
        ((new now faces).performEach (requests ++ [(later, .loadConfig channel text)])).configs =
          ((new now faces).performEach requests).configs := by
  have resolved : (new now faces).Resolved := ConfigStore.empty_resolved now []
  refine ⟨performEach_keeps resolved requests, ?_⟩
  intro later channel text error failed
  rw [performEach_concat, perform_loadConfig, failed, orStay_error]

/-- A plugin brings an alias rule, and then a channel gets a config of its own. -/
def withPlugin : List (Instant × Request) :=
  [(.epoch, .registerPlugins [.ofAlias "p" "dice"]), (.epoch, .loadConfig "c1" "\x7b\x7d")]

/-- The channel lists the rule of the plugin. A text that breaks off is no config, and the channel keeps its own. -/
theorem performEach_resolved_withPlugin :
    ((((new .epoch (.constant 1)).performEach withPlugin).configs.get "c1").list .aliases).map (·.id) =
        [⟨"p", "dice"⟩] ∧
      ((new .epoch (.constant 1)).performEach withPlugin).Resolved ∧
      ((new .epoch (.constant 1)).performEach
        (withPlugin ++ [(.epoch, .loadConfig "c1" "\x7b")])).configs =
          ((new .epoch (.constant 1)).performEach withPlugin).configs := by
  obtain ⟨resolved, stays⟩ := performEach_resolved .epoch (.constant 1) withPlugin
  refine ⟨by decide +kernel, resolved, stays .epoch "c1" "\x7b" .malformed ?_⟩
  rfl

end Engine

end Tabletop
