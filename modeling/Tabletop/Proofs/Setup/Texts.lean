/-
This file proves from which text set the candidates for a reply come.

The text sets in use are searched from the last one, and the built-in set stands behind them all. The first set
that has the key decides, even if it has no candidate for it.
-/

import Tabletop.Config.Store
import Tabletop.Proofs.Json.Decode
import Tabletop.Setup

namespace Tabletop

namespace Reply

/-- Each built-in text has one candidate. -/
theorem standardTexts_ne_nil {key : String} {items : List Item}
    (kept : standardTexts.texts[key]? = some items) : items ≠ [] := by
  have listed := Table.mem_of_get_ofPairs kept
  obtain ⟨pair, _, same⟩ := List.mem_map.1 listed
  cases same
  exact List.cons_ne_nil _ _

end Reply

namespace Setup

variable {setup : Setup} {key : String}

/-- The candidates that an entry of the config's list of text sets has for a key. A set that is not in use or not
found has none, and neither has one without the key. -/
def listed? (setup : Setup) (key : String) (ref : ItemRef) : Option (List Reply.Item) :=
  if ref.enabled then (setup.textSet? ref.id).bind (·.texts[key]?) else none

/-- The candidates for a key of all sets in use that have the key, in the order of the config. -/
def listings (setup : Setup) (key : String) : List (List Reply.Item) :=
  setup.config.texts.filterMap (setup.listed? key)

/-- The candidates for a key of the last set in use that has any, or else those of the built-in set. -/
def lastResort (setup : Setup) (key : String) : List Reply.Item :=
  ((setup.listings key).filter (· ≠ [])).getLast?.getD (Reply.standardTexts.texts.getD key [])

theorem findSome?_textSets (setup : Setup) (key : String) :
    setup.textSets.findSome? (·.texts[key]?) =
      (setup.listings key).getLast?.or Reply.standardTexts.texts[key]? := by
  have found : ((enabled setup.config.texts).reverse.filterMap setup.textSet?).findSome? (·.texts[key]?) =
      (setup.listings key).getLast? := by
    rw [← List.head?_filterMap, List.filterMap_filterMap, List.filterMap_reverse, List.head?_reverse, enabled,
      List.filterMap_map, List.filterMap_filter]
    rfl
  rw [textSets, List.findSome?_append, found, List.findSome?_singleton]

/-- The last listing decides. -/
theorem text?_eq (setup : Setup) (key : String) : setup.text? key =
    ((setup.listings key).getLast?.or Reply.standardTexts.texts[key]?).filter fun items => !items.isEmpty := by
  rw [text?, findSome?_textSets]

theorem lastResort_of_last {items : List Reply.Item} (last : (setup.listings key).getLast? = some items)
    (given : items ≠ []) : setup.lastResort key = items := by
  obtain ⟨front, same⟩ := List.getLast?_eq_some_iff.1 last
  rw [lastResort, same, List.filter_append, List.filter_cons_of_pos (by simpa using given), List.filter_nil]
  simp

theorem lastResort_of_none (none : setup.listings key = []) :
    setup.lastResort key = Reply.standardTexts.texts.getD key [] := by
  rw [lastResort, none, List.filter_nil, List.getLast?_nil, Option.getD_none]

theorem lastResort_ne_nil (known : key ∈ Reply.standardTexts.texts) : setup.lastResort key ≠ [] := by
  unfold lastResort
  cases last : ((setup.listings key).filter (· ≠ [])).getLast? with
  | some items =>
      have kept := List.mem_filter.1 (List.mem_of_getLast? last)
      simpa using kept.2
  | none =>
      rw [Option.getD_none, Std.ExtTreeMap.getD_eq_getD_getElem?, Std.ExtTreeMap.getElem?_eq_some_getElem known,
        Option.getD_some]
      exact Reply.standardTexts_ne_nil (Std.ExtTreeMap.getElem?_eq_some_getElem known)

/-- The candidates for a key of the built-in set are those of the last set in use that has any for it, or else the
built-in ones. Only if the last set in use that has the key has no candidates for it, there are none at all. -/
theorem text?_lastResort (setup : Setup) (key : String) (known : key ∈ Reply.standardTexts.texts) :
    setup.lastResort key ≠ [] ∧
    ((setup.listings key).getLast? ≠ some [] → setup.text? key = some (setup.lastResort key)) ∧
    ((setup.listings key).getLast? = some [] → setup.text? key = none) := by
  obtain ⟨builtIn, standard⟩ := Option.isSome_iff_exists.1 (Std.ExtTreeMap.isSome_getElem?_iff_mem.2 known)
  have given := Reply.standardTexts_ne_nil standard
  refine ⟨lastResort_ne_nil known, fun notBlank => ?_, fun blank => ?_⟩
  · cases last : (setup.listings key).getLast? with
    | none =>
        rw [text?_eq, last, Option.none_or, lastResort_of_none (List.getLast?_eq_none_iff.1 last),
          Std.ExtTreeMap.getD_eq_getD_getElem?, standard]
        simp [given]
    | some items =>
        have candidates : items ≠ [] := fun none => notBlank (none ▸ last)
        rw [text?_eq, last, Option.some_or, lastResort_of_last last candidates]
        simp [candidates]
  · rw [text?_eq, blank, Option.some_or]
    rfl

end Setup

/-- A plugin with text sets that new channels enable. -/
def Plugin.ofTexts (plugin : String) (sets : List (String × List (String × List Reply.Item))) : Plugin where
  id := plugin
  name := plugin
  version := 1
  deciders := []
  aliases := []
  texts := sets.map fun (id, pairs) => ⟨id, id, "", true, .ofPairs pairs⟩
  hooks := []
  preferences := []

namespace Setup

/-- The later text set of the plugin has a key without candidates. -/
def withBlank : Setup :=
  let plugin : Plugin := .ofTexts "p"
    [("loud", [("test.best", [⟨"!", 1⟩]), ("test.worst", [⟨"?", 1⟩])]), ("blank", [("test.best", [])])]
  ⟨((Config.standard .epoch).sync .epoch [plugin]).1, [plugin]⟩

/-- The first set of the plugin gives one text, and the built-in set gives another. -/
theorem text?_lastResort_plugin :
    "test.worst" ∈ Reply.standardTexts.texts ∧ "test.failure" ∈ Reply.standardTexts.texts ∧
      withBlank.text? "test.worst" = some [⟨"?", 1⟩] ∧ withBlank.text? "test.failure" = some [⟨"失败", 1⟩] := by
  obtain ⟨worst, failure, given, plugin, kept, builtIn⟩ :
      "test.worst" ∈ Reply.standardTexts.texts ∧ "test.failure" ∈ Reply.standardTexts.texts ∧
      (withBlank.listings "test.worst").getLast? ≠ some [] ∧ withBlank.lastResort "test.worst" = [⟨"?", 1⟩] ∧
      (withBlank.listings "test.failure").getLast? ≠ some [] ∧
        withBlank.lastResort "test.failure" = [⟨"失败", 1⟩] := by
    decide +kernel
  obtain ⟨-, found, -⟩ := text?_lastResort withBlank "test.worst" worst
  obtain ⟨-, standard, -⟩ := text?_lastResort withBlank "test.failure" failure
  exact ⟨worst, failure, (found given).trans (congrArg some plugin), (standard kept).trans (congrArg some builtIn)⟩

/-- A set without candidates for a key hides those of the other sets and of the built-in one. -/
theorem text?_lastResort_blank :
    "test.best" ∈ Reply.standardTexts.texts ∧ withBlank.lastResort "test.best" = [⟨"!", 1⟩] ∧
      withBlank.text? "test.best" = none := by
  decide +kernel

end Setup

end Tabletop
