/-
This file proves that the parts of a config are read back from the JSON that is written for them.

Ids are written as one text with a dot between the plugin and the item. They are read back only if the
item has no dot of its own and if neither part is empty. Everything else is read back without fail.
-/

import Mathlib.Data.List.Infix
import Tabletop.Config.Format
import Tabletop.Proofs.Instant.Text
import Tabletop.Proofs.Json.Decode
import Tabletop.Proofs.Text.Cut

namespace Tabletop

open Json

/-! Ids -/

theorem Text.cutAtLast?_append {mark : Char} (before : List Char) {behind : List Char}
    (absent : mark ∉ behind) :
    cutAtLast? [mark] (before ++ mark :: behind) = some (before, behind) := by
  have last : cutAtLast? [mark] (mark :: behind) = some ([], behind) := by
    rw [cutAtLast?, cutAtLast?_of_not_mem absent, after?, if_pos rfl]
    rfl
  rw [cutAtLast?_front last, List.append_nil]

/-- The mark does not stand behind its last place. -/
theorem Text.cutAtLast?_behind {mark : Char} {text before behind : List Char}
    (cut : cutAtLast? [mark] text = some (before, behind)) : mark ∉ behind := by
  induction text generalizing before with
  | nil => cases cut
  | cons char rest inductionHypothesis =>
      unfold cutAtLast? at cut
      split at cut
      · next deeper =>
        cases cut
        exact inductionHypothesis deeper
      · next last =>
        obtain ⟨tail, found, same⟩ := Option.map_eq_some_iff.1 cut
        cases same
        simp only [after?] at found
        split at found
        · cases found
          exact fun member => cutAtLast?_eq_none.1 last ((List.singleton_infix_iff _ _).2 member)
        · cases found

namespace FullId

/-- The id has an item without a dot, and neither part is empty. -/
def IsProper (id : FullId) : Prop :=
  id.plugin ≠ "" ∧ id.item ≠ "" ∧ '.' ∉ id.item.toList

theorem parse?_text {id : FullId} (proper : id.IsProper) : parse? id.text = some id := by
  obtain ⟨plugin, item, plain⟩ := proper
  have parts : id.text.toList = id.plugin.toList ++ '.' :: id.item.toList := by
    simp [text]
  unfold parse?
  rw [parts, Text.cutAtLast?_append _ plain]
  simp [plugin, item]

theorem parse?_isProper {text : String} {id : FullId} (read : parse? text = some id) :
    id.IsProper := by
  unfold parse? at read
  split at read
  · next plugin item cut =>
    split at read
    · cases read
    · next filled =>
      cases read
      have plain := Text.cutAtLast?_behind cut
      simp only [Bool.or_eq_true, List.isEmpty_iff, not_or] at filled
      refine ⟨?_, ?_, ?_⟩ <;> simp [filled, plain]
  · cases read

/-- Exactly the proper ids are read back from their text. -/
theorem decode_toJson_iff {id : FullId} : decode id.toJson = some id ↔ id.IsProper :=
  ⟨parse?_isProper, parse?_text⟩

end FullId

/-! Records -/

theorem ItemRef.decode_toJson {ref : ItemRef} (proper : ref.id.IsProper) :
    decode ref.toJson = some ref := by
  have id := FullId.decode_toJson_iff.2 proper
  unfold decode toJson
  rw [record?_object (by rfl) (by decide)]
  simp [Record.required, field?_cons, id, Decoder.bool]

theorem DefaultRoll.decode_toJson (roll : DefaultRoll) : decode roll.toJson = some roll := by
  unfold decode toJson
  rw [record?_object (by rfl) (by decide)]
  simp [Record.required, field?_cons, Decoder.string]

theorem ReactionTrigger.decode_toJson (trigger : ReactionTrigger) :
    decode trigger.toJson = some trigger := by
  unfold decode toJson
  rw [record?_object (by rfl) (by decide)]
  simp [Record.withDefault, field?_cons, Decoder.bool, Decoder.list_strings]

theorem Switches.decode_toJson (switches : Switches) : decode switches.toJson = some switches := by
  unfold decode toJson
  rw [record?_object (by rfl) (by decide)]
  simp [Record.withDefault, field?_cons, Decoder.bool, ReactionTrigger.decode_toJson]

theorem Level.decode_name (level : Level) : decode (.string level.name) = some level := by
  cases level <;> rfl

theorem DeciderRule.decode_toJson (rule : DeciderRule) : decode rule.toJson = some rule := by
  unfold decode toJson
  rw [record?_object (by rfl) (by decide)]
  simp [Record.required, field?_cons, Decoder.string, Level.decode_name]

theorem Decider.decode_toJson (decider : Decider) : decode decider.toJson = some decider := by
  have rules : Decoder.list DeciderRule.decode (.ofList DeciderRule.toJson decider.rules) =
      some decider.rules := Decoder.list_ofList fun rule _ => rule.decode_toJson
  unfold decode toJson
  rw [record?_object (by rfl) (by decide)]
  simp [Record.required, Record.withDefault, field?_cons, Decoder.string, rules]

theorem AliasScope.decode_name (scope : AliasScope) : decode (.string scope.name) = some scope := by
  cases scope <;> rfl

theorem AliasTrigger.decode_toJson (trigger : AliasTrigger) : decode trigger.toJson = some trigger := by
  cases trigger with
  | literal text replacement =>
      unfold decode toJson
      dsimp only
      rw [record?_object (by rfl) (by decide)]
      simp [Record.required, field?_cons, Decoder.string]
  | pattern text replacement =>
      have read : Decoder.option .string (.ofOption .string replacement) = some replacement :=
        Decoder.option_ofOption fun inner _ => ⟨rfl, Json.noConfusion⟩
      unfold decode toJson
      dsimp only
      rw [record?_object (by rfl) (by decide)]
      simp [Record.required, Record.optional, Record.withDefault, field?_cons, Decoder.string, read]

theorem AliasRule.decode_toJson (rule : AliasRule) : decode rule.toJson = some rule := by
  unfold decode toJson
  rw [record?_object (by rfl) (by decide)]
  simp [Record.required, Record.withDefault, field?_cons, Decoder.string, Decoder.bool,
    AliasScope.decode_name, AliasTrigger.decode_toJson]

namespace Reply

theorem Item.decode_toJson {item : Item} (fits : item.weight < Number.countRange) :
    decode item.toJson = some item := by
  unfold decode toJson
  rw [record?_object (by rfl) (by decide)]
  -- The fields are read one by one, as `simp` leaves the bound of numbers to be counted out.
  refine Option.bind_eq_some_iff.2 ⟨_, rfl, ?_⟩
  refine Option.bind_eq_some_iff.2 ⟨_, Record.required_field rfl rfl, ?_⟩
  exact Option.bind_eq_some_iff.2 ⟨_, Record.withDefault_field rfl (Decoder.count_nat fits), rfl⟩

/-- The weights of all items have 32 bits. -/
def TextSet.Fits (set : TextSet) : Prop :=
  ∀ (key : String) (items : List Item), set.texts[key]? = some items →
    ∀ item ∈ items, item.weight < Number.countRange

theorem TextSet.decode_toJson {set : TextSet} (fits : set.Fits) : decode set.toJson = some set := by
  have texts : Decoder.table (.list Item.decode) (.ofTable (.ofList Item.toJson) set.texts) =
      some set.texts :=
    Decoder.table_ofTable fun key items kept =>
      Decoder.list_ofList fun item member => Item.decode_toJson (fits key items kept item member)
  unfold decode toJson
  rw [record?_object (by rfl) (by decide)]
  simp [Record.required, Record.withDefault, field?_cons, Decoder.string, Decoder.bool, texts]

end Reply

theorem OwnItems.decode_toJson {items : OwnItems} (fits : ∀ set ∈ items.texts, set.Fits) :
    decode items.toJson = some items := by
  have deciders : Decoder.list Decider.decode (.ofList Decider.toJson items.deciders) =
      some items.deciders := Decoder.list_ofList fun decider _ => decider.decode_toJson
  have aliases : Decoder.list AliasRule.decode (.ofList AliasRule.toJson items.aliases) =
      some items.aliases := Decoder.list_ofList fun rule _ => rule.decode_toJson
  have texts : Decoder.list Reply.TextSet.decode (.ofList Reply.TextSet.toJson items.texts) =
      some items.texts :=
    Decoder.list_ofList fun set member => Reply.TextSet.decode_toJson (fits set member)
  unfold decode toJson
  rw [record?_object (by rfl) (by decide)]
  simp [Record.withDefault, field?_cons, deciders, aliases, texts]

/-! Lists of references -/

theorem ItemRef.list_ofList {refs : List ItemRef} (proper : ∀ ref ∈ refs, ref.id.IsProper) :
    Decoder.list decode (.ofList toJson refs) = some refs :=
  Decoder.list_ofList fun ref member => decode_toJson (proper ref member)

theorem HookKind.name_injective : Function.Injective name := by
  intro left right
  cases left <;> cases right <;> decide

namespace HookLists

/-- The lists that are there with the names of their kinds. -/
def named (hooks : HookLists) : List (String × List ItemRef) :=
  HookKind.all.filterMap fun kind => (hooks kind).map fun refs => (kind.name, refs)

variable {hooks : HookLists}

theorem mem_named {name : String} {refs : List ItemRef} :
    (name, refs) ∈ hooks.named ↔ ∃ kind, hooks kind = some refs ∧ kind.name = name := by
  unfold named
  rw [List.mem_filterMap]
  constructor
  · rintro ⟨kind, -, found⟩
    obtain ⟨kept, there, same⟩ := Option.map_eq_some_iff.1 found
    cases same
    exact ⟨kind, there, rfl⟩
  · rintro ⟨kind, there, rfl⟩
    exact ⟨kind, kind.memAll, by rw [there]; rfl⟩

theorem named_nodup : (hooks.named.map (·.1)).Nodup := by
  have different : HookKind.all.Nodup := by decide
  unfold named
  rw [List.Nodup, List.pairwise_map, List.pairwise_filterMap]
  refine different.imp fun {left right} apart first found second other same => apart ?_
  obtain ⟨_, -, rfl⟩ := Option.map_eq_some_iff.1 found
  obtain ⟨_, -, rfl⟩ := Option.map_eq_some_iff.1 other
  exact HookKind.name_injective same

theorem decode_toJson (proper : ∀ kind refs, hooks kind = some refs → ∀ ref ∈ refs, ref.id.IsProper) :
    decode hooks.toJson = some hooks := by
  have written : hooks.toJson =
      .object (hooks.named.map fun pair => (pair.1, .ofList ItemRef.toJson pair.2)) := by
    unfold toJson named
    rw [List.map_filterMap]
    simp only [Option.map_map, Function.comp_def]
  have table : Decoder.table (.list ItemRef.decode) hooks.toJson = some (Table.ofPairs hooks.named) := by
    rw [written]
    refine Decoder.table_object fun pair member => ?_
    obtain ⟨kind, there, -⟩ := mem_named.1 member
    exact ItemRef.list_ofList (proper kind pair.2 there)
  have known : (Table.ofPairs hooks.named).keys.all (HookKind.all.map HookKind.name).contains = true := by
    rw [List.all_eq_true]
    intro name member
    obtain ⟨refs, listed⟩ := Table.mem_ofPairs.1 (Std.ExtTreeMap.mem_keys.1 member)
    obtain ⟨kind, -, rfl⟩ := mem_named.1 listed
    exact List.contains_iff_mem.2 (List.mem_map_of_mem kind.memAll)
  unfold decode
  rw [table]
  change (if _ then _ else _) = _
  rw [if_pos known]
  refine congrArg some (funext fun kind => Option.ext fun refs => ?_)
  rw [Table.get_ofPairs_iff named_nodup, mem_named]
  constructor
  · rintro ⟨other, there, same⟩
    rwa [← HookKind.name_injective same]
  · exact fun there => ⟨kind, there, rfl⟩

end HookLists

/-! Configs -/

namespace Config

/-- The references of a config to alias rules, text sets and hooks. -/
def refs (config : Config) : List ItemRef :=
  config.aliases ++ config.texts ++ HookKind.all.flatMap fun kind => (config.hooks kind).getD []

/-- What is kept beside the references can be written and read back. -/
structure Fits (config : Config) : Prop where
  version : config.version < Number.countRange
  deciderId : config.deciderId.IsProper
  dndDeciderId : ∀ id, config.dndDeciderId = some id → id.IsProper
  texts : ∀ set ∈ config.own.texts, set.Fits
  lastModified : config.lastModified.Valid

variable {config : Config}

theorem mem_refs {ref : ItemRef} : ref ∈ config.refs ↔
    ref ∈ config.aliases ∨ ref ∈ config.texts ∨ ∃ kind refs, config.hooks kind = some refs ∧ ref ∈ refs := by
  unfold refs
  rw [List.mem_append, List.mem_append, or_assoc, List.mem_flatMap]
  refine or_congr_right (or_congr_right ⟨?_, ?_⟩)
  · rintro ⟨kind, -, member⟩
    cases there : config.hooks kind with
    | none => simp [there] at member
    | some refs => exact ⟨kind, refs, there, by simpa [there] using member⟩
  · rintro ⟨kind, refs, there, member⟩
    exact ⟨kind, kind.memAll, by simpa [there] using member⟩

theorem decode_toJson (fits : config.Fits) (proper : ∀ ref ∈ config.refs, ref.id.IsProper)
    (now : Instant) : decode now config.toJson = some config := by
  have version := Decoder.count_nat fits.version
  have deciderId := FullId.decode_toJson_iff.2 fits.deciderId
  have dndDeciderId : Decoder.option FullId.decode (.ofOption FullId.toJson config.dndDeciderId) =
      some config.dndDeciderId :=
    Decoder.option_ofOption fun id there =>
      ⟨FullId.decode_toJson_iff.2 (fits.dndDeciderId id there), Json.noConfusion⟩
  have aliases := ItemRef.list_ofList fun ref member => proper ref (mem_refs.2 (.inl member))
  have texts := ItemRef.list_ofList fun ref member => proper ref (mem_refs.2 (.inr (.inl member)))
  have hooks : HookLists.decode config.hooks.toJson = some config.hooks :=
    HookLists.decode_toJson fun kind refs there ref member =>
      proper ref (mem_refs.2 (.inr (.inr ⟨kind, refs, there, member⟩)))
  have preferences : Decoder.table (.table .string) (.ofTable (.ofTable .string) config.preferences) =
      some config.preferences :=
    Decoder.table_ofTable fun _ _ _ => Decoder.table_ofTable fun _ _ _ => rfl
  have lastModified : Decoder.instant (.string config.lastModified.text) = some config.lastModified :=
    Instant.parse?_text fits.lastModified
  unfold decode toJson
  rw [record?_object (by rfl) (by decide)]
  refine Option.bind_eq_some_iff.2 ⟨_, rfl, ?_⟩
  refine Option.bind_eq_some_iff.2 ⟨_, Record.withDefault_field rfl version, ?_⟩
  refine Option.bind_eq_some_iff.2 ⟨_, Record.withDefault_field rfl config.defaultRoll.decode_toJson, ?_⟩
  refine Option.bind_eq_some_iff.2 ⟨_, Record.withDefault_field rfl config.switches.decode_toJson, ?_⟩
  refine Option.bind_eq_some_iff.2 ⟨_, Record.withDefault_field rfl deciderId, ?_⟩
  refine Option.bind_eq_some_iff.2 ⟨_, Record.withDefault_field rfl dndDeciderId, ?_⟩
  refine Option.bind_eq_some_iff.2 ⟨_, Record.withDefault_field rfl aliases, ?_⟩
  refine Option.bind_eq_some_iff.2 ⟨_, Record.withDefault_field rfl texts, ?_⟩
  refine Option.bind_eq_some_iff.2 ⟨_, Record.withDefault_field rfl hooks, ?_⟩
  refine Option.bind_eq_some_iff.2 ⟨_, Record.withDefault_field rfl (OwnItems.decode_toJson fits.texts), ?_⟩
  refine Option.bind_eq_some_iff.2 ⟨_, Record.withDefault_field rfl preferences, ?_⟩
  refine Option.bind_eq_some_iff.2 ⟨_, Record.withDefault_field rfl lastModified, ?_⟩
  rfl

end Config

end Tabletop
