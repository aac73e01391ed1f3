/-
This file proves which configs are read back from the JSON that is written for them.

Whatever a channel does with its config, all of it but the references to items of plugins can be written and
read back. So a config is read back if and only if the ids of its references are. Ids with a dot in their
item, and those with an empty part, get into configs from plugins. They are read back as other ids or not
at all.
-/

import Tabletop.Proofs.Card.Format
import Tabletop.Proofs.Config.Format
import Tabletop.Proofs.Config.Migration
import Tabletop.Proofs.Config.Sync

namespace Tabletop

/-! What is read -/

theorem FullId.decode_ensures : Decoder.Ensures decode IsProper := by
  intro json id read
  cases json with
  | string text => exact parse?_isProper read
  | _ => cases read

theorem ItemRef.decode_ensures : Decoder.Ensures decode fun ref => ref.id.IsProper := by
  intro json ref read
  obtain ⟨record, -, read⟩ := Option.bind_eq_some_iff.1 read
  obtain ⟨id, isId, read⟩ := Option.bind_eq_some_iff.1 read
  obtain ⟨enabled, -, read⟩ := Option.bind_eq_some_iff.1 read
  cases read
  exact FullId.decode_ensures.required isId

namespace Reply

theorem Item.decode_ensures : Decoder.Ensures decode fun item => item.weight < Number.countRange := by
  intro json item read
  obtain ⟨record, -, read⟩ := Option.bind_eq_some_iff.1 read
  obtain ⟨text, -, read⟩ := Option.bind_eq_some_iff.1 read
  obtain ⟨weight, isWeight, read⟩ := Option.bind_eq_some_iff.1 read
  cases read
  exact Decoder.count_ensures.withDefault (by decide) isWeight

theorem TextSet.decode_ensures : Decoder.Ensures decode Fits := by
  intro json set read
  obtain ⟨record, -, read⟩ := Option.bind_eq_some_iff.1 read
  obtain ⟨id, -, read⟩ := Option.bind_eq_some_iff.1 read
  obtain ⟨name, -, read⟩ := Option.bind_eq_some_iff.1 read
  obtain ⟨description, -, read⟩ := Option.bind_eq_some_iff.1 read
  obtain ⟨defaultEnabled, -, read⟩ := Option.bind_eq_some_iff.1 read
  obtain ⟨texts, areTexts, read⟩ := Option.bind_eq_some_iff.1 read
  cases read
  refine Item.decode_ensures.list.table.withDefault ?_ areTexts
  intro key items kept
  simp at kept

theorem standardTexts_fits : standardTexts.Fits := by
  intro key items kept item member
  have listed := Table.mem_of_get_ofPairs kept
  obtain ⟨pair, -, same⟩ := List.mem_map.1 listed
  cases same
  rw [List.mem_singleton] at member
  subst member
  change 1 < Number.countRange
  decide

end Reply

theorem OwnItems.decode_ensures :
    Decoder.Ensures decode fun items => ∀ set ∈ items.texts, set.Fits := by
  intro json items read
  obtain ⟨record, -, read⟩ := Option.bind_eq_some_iff.1 read
  obtain ⟨deciders, -, read⟩ := Option.bind_eq_some_iff.1 read
  obtain ⟨aliases, -, read⟩ := Option.bind_eq_some_iff.1 read
  obtain ⟨texts, areTexts, read⟩ := Option.bind_eq_some_iff.1 read
  cases read
  exact Reply.TextSet.decode_ensures.list.withDefault (List.forall_mem_nil _) areTexts

theorem HookLists.decode_ensures : Decoder.Ensures decode fun hooks =>
    ∀ kind refs, hooks kind = some refs → ∀ ref ∈ refs, ref.id.IsProper := by
  intro json hooks read kind refs there
  obtain ⟨table, isTable, read⟩ := Option.bind_eq_some_iff.1 read
  split at read
  · cases read
    exact ItemRef.decode_ensures.list.table json table isTable kind.name refs there
  · cases read

/-- The ids of all items that configs get references to are read back. -/
def Plugins.IdsProper (plugins : Plugins) : Prop :=
  ∀ item ∈ plugins.aliasIds ++ plugins.textIds ++ HookKind.all.flatMap plugins.hookIds, item.1.IsProper

instance (id : FullId) : Decidable id.IsProper :=
  inferInstanceAs (Decidable (_ ∧ _ ∧ _))

instance (plugins : Plugins) : Decidable plugins.IdsProper :=
  List.decidableBAll _ _

namespace Config

variable {config : Config} {now : Instant}

/-- The ids of all references are read back. -/
def RefsProper (config : Config) : Prop :=
  ∀ ref ∈ config.refs, ref.id.IsProper

theorem refsProper_iff : config.RefsProper ↔ (∀ ref ∈ config.aliases, ref.id.IsProper) ∧
    (∀ ref ∈ config.texts, ref.id.IsProper) ∧
    ∀ kind refs, config.hooks kind = some refs → ∀ ref ∈ refs, ref.id.IsProper := by
  simp only [RefsProper, mem_refs]
  grind

theorem RefsProper.ofKind (proper : config.RefsProper) (kind : HookKind) :
    ∀ ref ∈ (config.hooks kind).getD [], ref.id.IsProper := by
  cases kept : config.hooks kind with
  | none => exact List.forall_mem_nil _
  | some refs => exact (refsProper_iff.1 proper).2.2 kind refs kept

theorem embedded_isProper {item : String} (some : item ≠ "") (plain : '.' ∉ item.toList) :
    (FullId.embedded item).IsProper :=
  have plugin : FullId.embeddedPlugin ≠ "" := by decide
  ⟨plugin, some, plain⟩

theorem standardDecider_isProper : standardDecider.IsProper := by
  refine embedded_isProper ?_ ?_ <;> decide

theorem standardDndDecider_isProper : standardDndDecider.IsProper := by
  refine embedded_isProper ?_ ?_ <;> decide

theorem standardTextRef_isProper : standardTextRef.id.IsProper := by
  refine embedded_isProper ?_ ?_ <;> decide

/-- The references of all configs that are read can be read back, and what is beside them too. -/
theorem decode_ensures (now : Instant) :
    (decode now).Ensures fun config => config.RefsProper ∧ (now.Valid → config.Fits) := by
  intro json config read
  obtain ⟨record, -, read⟩ := Option.bind_eq_some_iff.1 read
  obtain ⟨version, isVersion, read⟩ := Option.bind_eq_some_iff.1 read
  obtain ⟨defaultRoll, -, read⟩ := Option.bind_eq_some_iff.1 read
  obtain ⟨switches, -, read⟩ := Option.bind_eq_some_iff.1 read
  obtain ⟨deciderId, isDecider, read⟩ := Option.bind_eq_some_iff.1 read
  obtain ⟨dndDeciderId, isDndDecider, read⟩ := Option.bind_eq_some_iff.1 read
  obtain ⟨aliases, areAliases, read⟩ := Option.bind_eq_some_iff.1 read
  obtain ⟨texts, areTexts, read⟩ := Option.bind_eq_some_iff.1 read
  obtain ⟨hooks, areHooks, read⟩ := Option.bind_eq_some_iff.1 read
  obtain ⟨own, areOwn, read⟩ := Option.bind_eq_some_iff.1 read
  obtain ⟨preferences, -, read⟩ := Option.bind_eq_some_iff.1 read
  obtain ⟨lastModified, isTime, read⟩ := Option.bind_eq_some_iff.1 read
  cases read
  have ownStandard : ∀ set ∈ OwnItems.standard.texts, set.Fits :=
    List.forall_mem_singleton.2 Reply.standardTexts_fits
  refine ⟨refsProper_iff.2 ⟨?_, ?_, ?_⟩, fun clock => ?_⟩
  · exact ItemRef.decode_ensures.list.withDefault (List.forall_mem_nil _) areAliases
  · exact ItemRef.decode_ensures.list.withDefault (List.forall_mem_nil _) areTexts
  · exact HookLists.decode_ensures.withDefault (fun _ _ absent => by cases absent) areHooks
  · exact {
      version := Decoder.count_ensures.withDefault (by decide) isVersion
      deciderId := FullId.decode_ensures.withDefault standardDecider_isProper isDecider
      dndDeciderId := FullId.decode_ensures.option.withDefault (fun _ absent => by cases absent) isDndDecider
      texts := OwnItems.decode_ensures.withDefault ownStandard areOwn
      lastModified := Decoder.instant_ensures.withDefault clock isTime }

/-! What is kept when configs change -/

theorem toSecond_refsProper (proper : config.RefsProper) : config.toSecond.RefsProper := by
  obtain ⟨aliases, texts, _⟩ := refsProper_iff.1 proper
  refine refsProper_iff.2 ⟨aliases, texts, ?_⟩
  intro kind refs there
  cases there
  exact proper.ofKind kind

theorem toThird_refsProper (proper : config.RefsProper) : config.toThird.RefsProper := by
  obtain ⟨aliases, texts, hooks⟩ := refsProper_iff.1 proper
  refine refsProper_iff.2 ⟨aliases, ?_, hooks⟩
  change ∀ ref ∈ withStandardTextRef config.texts, ref.id.IsProper
  unfold withStandardTextRef
  split
  · exact texts
  · exact List.forall_mem_cons.2 ⟨standardTextRef_isProper, texts⟩

theorem toSecond_fits (fits : config.Fits) : config.toSecond.Fits where
  version := (by decide : 2 < Number.countRange)
  deciderId := fits.deciderId
  dndDeciderId := by
    rintro id there
    cases there
    cases kept : config.dndDeciderId with
    | none => exact standardDndDecider_isProper
    | some id => exact fits.dndDeciderId id kept
  texts := fits.texts
  lastModified := fits.lastModified

theorem toThird_fits (fits : config.Fits) : config.toThird.Fits where
  version := (by decide : configVersion < Number.countRange)
  deciderId := fits.deciderId
  dndDeciderId := fits.dndDeciderId
  texts := by
    change ∀ set ∈ withStandardTexts config.own.texts, set.Fits
    unfold withStandardTexts
    split
    · exact fits.texts
    · exact List.forall_mem_cons.2 ⟨Reply.standardTexts_fits, fits.texts⟩
  lastModified := fits.lastModified

theorem Fits.at (fits : config.Fits) (clock : now.Valid) :
    Fits { config with lastModified := now } :=
  { fits with lastModified := clock }

/-- A migration ends at the current version and keeps what can be written and read back. -/
theorem migrate_keeps {after : Config} {changed : Bool}
    (done : config.migrate now = .ok (after, changed)) :
    after.version = configVersion ∧ (config.RefsProper → after.RefsProper) ∧
      (config.Fits → now.Valid → after.Fits) := by
  rcases config.migrate_cases now with
    ⟨_, refused⟩ | ⟨current, same⟩ | ⟨_, upgraded⟩ | ⟨_, upgraded⟩
  · rw [refused] at done
    cases done
  · rw [same] at done
    cases done
    exact ⟨current, id, fun fits _ => fits⟩
  · rw [upgraded] at done
    cases done
    exact ⟨rfl, toThird_refsProper, fun fits clock => (toThird_fits fits).at clock⟩
  · rw [upgraded] at done
    cases done
    exact ⟨rfl, fun proper => toThird_refsProper (toSecond_refsProper proper),
      fun fits clock => (toThird_fits (toSecond_fits fits)).at clock⟩

/-- A config that is read is of the current version, and all of it can be written and read back. -/
theorem ofJson_ok {json : Json} (read : ofJson now json = .ok config) :
    config.version = configVersion ∧ config.RefsProper ∧ (now.Valid → config.Fits) := by
  unfold ofJson at read
  split at read
  · cases read
  · next before decoded =>
    split at read
    · next after changed done =>
      cases read
      obtain ⟨proper, fits⟩ := decode_ensures now json before decoded
      obtain ⟨current, keepsProper, keepsFits⟩ := migrate_keeps done
      exact ⟨current, keepsProper proper, fun clock => keepsFits (fits clock) clock⟩
    · cases read

theorem ofJson_of_decode {json : Json} {after : Config} {changed : Bool}
    (read : decode now json = some config) (migrated : config.migrate now = .ok (after, changed)) :
    ofJson now json = .ok after := by
  simp only [ofJson, read, migrated]

/-- Configs of the current version are read back if and only if the ids of their references are. -/
theorem ofJson_toJson_iff (version : config.version = configVersion) (fits : config.Fits)
    (later : Instant) : ofJson later config.toJson = .ok config ↔ config.RefsProper := by
  constructor
  · exact fun read => (ofJson_ok read).2.1
  · intro proper
    exact ofJson_of_decode (decode_toJson fits proper later) (migrate_current version later)

theorem sync_refs {loaded : List (FullId × Bool)} {refs : List ItemRef}
    (proper : ∀ ref ∈ refs, ref.id.IsProper) (items : ∀ item ∈ loaded, item.1.IsProper) :
    ∀ ref ∈ ItemRef.sync loaded refs, ref.id.IsProper := by
  have onto (kept : List ItemRef) (keptProper : ∀ ref ∈ kept, ref.id.IsProper) :
      ∀ ref ∈ loaded.foldl ItemRef.addMissing kept, ref.id.IsProper := by
    induction loaded generalizing kept with
    | nil => exact keptProper
    | cons item loaded inductionHypothesis =>
        obtain ⟨first, others⟩ := List.forall_mem_cons.1 items
        refine inductionHypothesis others _ ?_
        unfold ItemRef.addMissing
        split
        · exact keptProper
        · exact List.forall_mem_append.2 ⟨keptProper, List.forall_mem_singleton.2 first⟩
  exact onto _ fun ref member => proper ref (List.mem_of_mem_filter member)

variable {plugins : Plugins}

theorem sync_fits (fits : config.Fits) (clock : now.Valid) : (config.sync now plugins).1.Fits := by
  rw [sync_eq]
  exact {
    version := fits.version
    deciderId := by
      change FullId.IsProper (if _ then _ else _)
      split
      · exact fits.deciderId
      · exact standardDecider_isProper
    dndDeciderId := by
      intro id there
      obtain ⟨before, kept, rfl⟩ := Option.map_eq_some_iff.1 there
      split
      · exact fits.dndDeciderId before kept
      · exact standardDndDecider_isProper
    texts := fits.texts
    lastModified := by
      dsimp only
      split
      · exact clock
      · exact fits.lastModified }

theorem sync_refsProper (proper : config.RefsProper) (items : plugins.IdsProper) :
    (config.sync now plugins).1.RefsProper := by
  rw [sync_eq]
  obtain ⟨aliases, texts, _⟩ := refsProper_iff.1 proper
  simp only [Plugins.IdsProper, List.forall_mem_append, List.forall_mem_flatMap] at items
  obtain ⟨⟨aliasItems, textItems⟩, hookItems⟩ := items
  refine refsProper_iff.2 ⟨sync_refs aliases aliasItems, sync_refs texts textItems, ?_⟩
  intro kind refs there
  cases there
  exact sync_refs (proper.ofKind kind) (hookItems kind kind.memAll)

/-! Configs in use -/

/-- The configs of channels with the plugin sets that they were brought in line with. The clock that gives
them their times stays within the calendar. -/
inductive Reached : List Plugins → Config → Prop
  | standard {now : Instant} (clock : now.Valid) : Reached [] (.standard now)
  | read {now : Instant} {json : Json} {config : Config} (clock : now.Valid)
      (read : ofJson now json = .ok config) : Reached [] config
  | sync {now : Instant} {sets : List Plugins} {config : Config} (clock : now.Valid) (plugins : Plugins)
      (reached : Reached sets config) : Reached (plugins :: sets) (config.sync now plugins).1
  | setPreference {now : Instant} {sets : List Plugins} {config : Config} (clock : now.Valid)
      (plugin key value : String) (reached : Reached sets config) :
      Reached sets (config.setPreference now plugin key value)

theorem standard_fits (clock : now.Valid) : (standard now).Fits where
  version := (by decide : configVersion < Number.countRange)
  deciderId := standardDecider_isProper
  dndDeciderId := by
    rintro id there
    cases there
    exact standardDndDecider_isProper
  texts := List.forall_mem_singleton.2 Reply.standardTexts_fits
  lastModified := clock

theorem standard_refsProper (now : Instant) : (standard now).RefsProper := by
  have rules : ∀ rule ∈ AliasRule.embedded, rule.id ≠ "" ∧ '.' ∉ rule.id.toList := by decide
  refine refsProper_iff.2 ⟨?_, List.forall_mem_singleton.2 standardTextRef_isProper, ?_⟩
  · refine List.forall_mem_map.2 fun rule member => ?_
    exact embedded_isProper (rules rule member).1 (rules rule member).2
  · intro kind refs there
    cases there
    exact List.forall_mem_nil _

namespace Reached

variable {sets : List Plugins}

theorem fits (reached : Reached sets config) : config.version = configVersion ∧ config.Fits := by
  induction reached with
  | standard clock => exact ⟨rfl, standard_fits clock⟩
  | read clock read => exact ⟨(ofJson_ok read).1, (ofJson_ok read).2.2 clock⟩
  | sync clock plugins _ inductionHypothesis =>
      refine ⟨?_, sync_fits inductionHypothesis.2 clock⟩
      rw [sync_eq]
      exact inductionHypothesis.1
  | setPreference clock _ _ _ _ inductionHypothesis =>
      exact ⟨inductionHypothesis.1, { inductionHypothesis.2 with lastModified := clock }⟩

/-- Only plugins bring ids that are not read back. -/
theorem refsProper (reached : Reached sets config) (items : ∀ plugins ∈ sets, plugins.IdsProper) :
    config.RefsProper := by
  induction reached with
  | standard => exact standard_refsProper _
  | read _ read => exact (ofJson_ok read).2.1
  | sync _ plugins _ inductionHypothesis =>
      obtain ⟨own, others⟩ := List.forall_mem_cons.1 items
      exact sync_refsProper (inductionHypothesis others) own
  | setPreference _ _ _ _ _ inductionHypothesis => exact inductionHypothesis items

/-- The config of a channel is read back if and only if the ids of its references are, and they are if
no plugin brought an item with a dot in its id or an empty part of an id. -/
theorem ofJson_toJson (reached : Reached sets config) (later : Instant) :
    (ofJson later config.toJson = .ok config ↔ config.RefsProper) ∧
      ((∀ plugins ∈ sets, plugins.IdsProper) → ofJson later config.toJson = .ok config) := by
  obtain ⟨version, fits⟩ := reached.fits
  have same := ofJson_toJson_iff version fits later
  exact ⟨same, fun items => same.2 (reached.refsProper items)⟩

end Reached

theorem withAlias_reached (item : String) : Reached [[Plugin.ofAlias "p" item]] (withAlias item) :=
  .sync Instant.epoch_valid _ (.standard Instant.epoch_valid)

theorem ofJson_toJson_alias :
    Reached [[Plugin.ofAlias "p" "dice"]] (withAlias "dice") ∧
      Plugins.IdsProper [Plugin.ofAlias "p" "dice"] ∧
      ofJson .epoch (withAlias "dice").toJson = .ok (withAlias "dice") := by
  have items : Plugins.IdsProper [Plugin.ofAlias "p" "dice"] := by decide
  have reached := withAlias_reached "dice"
  exact ⟨reached, items, (reached.ofJson_toJson .epoch).2 (List.forall_mem_singleton.2 items)⟩

/-- A channel does not get its config back if the id of an alias rule has a dot. -/
theorem ofJson_toJson_dotted :
    Reached [[Plugin.ofAlias "p" "a.b"]] (withAlias "a.b") ∧
      ofJson .epoch (withAlias "a.b").toJson ≠ .ok (withAlias "a.b") := by
  have reached := withAlias_reached "a.b"
  have added : (⟨⟨"p", "a.b"⟩, true⟩ : ItemRef) ∈ (withAlias "a.b").refs := by decide +kernel
  obtain ⟨version, fits⟩ := reached.fits
  refine ⟨reached, fun read => ?_⟩
  have proper := (ofJson_toJson_iff version fits .epoch).1 read
  exact (proper _ added).2.2 (by decide)

end Config

end Tabletop
