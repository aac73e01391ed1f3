/-
This file proves what the names of abilities read after an expression was stored under one of them.

A name is written to the first key up to ASCII case, and it reads the key that it equals before all others. So a name
with an entry of its own may read something else than what was stored under it. Synonyms find no stored ability.
-/

import Tabletop.Card.Format
import Tabletop.Proofs.Card.ReadBack
import Tabletop.Proofs.Result

namespace Tabletop

open Text

theorem Text.sameUpToAsciiCase_congr {left right : String} (same : sameUpToAsciiCase left right = true)
    (text : String) : sameUpToAsciiCase text left = sameUpToAsciiCase text right := by
  rw [sameUpToAsciiCase, sameUpToAsciiCase, eq_of_beq same]

/-! Tables -/

namespace Table

variable {α : Type} (table : Table α) {key name other : String} {value : α}

/-- The key under which a name is written: the first one up to ASCII case, or else the name itself. -/
def firstKeyFor (name : String) : String :=
  (table.firstKey? (sameUpToAsciiCase · name)).getD name

theorem firstKeyFor_same (name : String) : sameUpToAsciiCase (table.firstKeyFor name) name = true := by
  unfold firstKeyFor
  cases found : table.firstKey? (sameUpToAsciiCase · name) with
  | none => exact sameUpToAsciiCase_refl name
  | some key =>
      have same := List.find?_some found
      exact same

/-- Without an entry of its own a name reads the first key up to ASCII case. -/
theorem lookup?_of_not_mem (missing : name ∉ table) : table.lookup? name =
    (table.firstKey? (sameUpToAsciiCase · name)).bind fun key => table[key]?.map fun value => (key, value) := by
  have keys : table.toList.map (·.1) = table.keys := Std.ExtTreeMap.map_fst_toList_eq_keys
  rw [lookup?, Std.ExtTreeMap.getElem?_eq_none missing, firstKey?, ← keys, List.find?_map]
  change table.toList.find? (fun entry => sameUpToAsciiCase entry.1 name) = Option.bind (Option.map (·.1)
    (table.toList.find? fun entry => sameUpToAsciiCase entry.1 name)) _
  cases found : table.toList.find? fun entry => sameUpToAsciiCase entry.1 name with
  | none => rfl
  | some entry =>
      have kept := Std.ExtTreeMap.mem_toList_iff_getElem?_eq_some.1 (List.mem_of_find?_eq_some found)
      rw [Option.map_some, Option.bind_some, kept, Option.map_some]

/-- Which key is the first one to satisfy a test depends on those that satisfy it alone. -/
theorem firstKey?_congr {first second : Table α} {test : String → Bool}
    (same : ∀ key, test key = true → (key ∈ first ↔ key ∈ second)) : first.firstKey? test = second.firstKey? test := by
  have passing : first.keys.filter test = second.keys.filter test := by
    refine ((keys_sorted first).filter _).eq_of_mem_iff ((keys_sorted second).filter _) fun key => ?_
    rw [List.mem_filter, List.mem_filter, Std.ExtTreeMap.mem_keys, Std.ExtTreeMap.mem_keys]
    exact and_congr_left (same key)
  rw [firstKey?, firstKey?, ← List.head?_filter, ← List.head?_filter, passing]

/-- What is written under a name is read by all names that differ from it at most in case, but for other keys. -/
theorem lookup?_written (same : sameUpToAsciiCase name other = true)
    (own : other ∈ table → other = table.firstKeyFor name) (value : α) :
    lookup? (table.insert (table.firstKeyFor name) value) other = some (table.firstKeyFor name, value) := by
  have stands : (table.insert (table.firstKeyFor name) value)[table.firstKeyFor name]? = some value := by
    rw [get_insert, if_pos rfl]
  cases found : table.firstKey? (sameUpToAsciiCase · name) with
  | none =>
      have key : table.firstKeyFor name = name := by rw [firstKeyFor, found, Option.getD_none]
      rw [key] at stands ⊢
      refine lookup?_of_alone stands (fun entry member close => ?_) same
      rcases mem_insert.1 member with rfl | old
      · rfl
      · exact absurd close (List.find?_eq_none.1 found entry (Std.ExtTreeMap.mem_keys.2 old))
  | some key =>
      have is : table.firstKeyFor name = key := by rw [firstKeyFor, found, Option.getD_some]
      have kept : key ∈ table := Std.ExtTreeMap.mem_keys.1 (List.mem_of_find?_eq_some found)
      rw [is] at own stands ⊢
      by_cases there : other ∈ table
      · obtain rfl := own there
        rw [lookup?, stands]
      · have missing : other ∉ table.insert key value := fun member =>
          there ((mem_insert.1 member).elim (fun equal => equal ▸ kept) id)
        have first : firstKey? (table.insert key value) (sameUpToAsciiCase · other) = some key := by
          rw [firstKey?, table.keys_insert kept, ← found, firstKey?]
          exact congrArg (table.keys.find? ·) (funext fun entry => (sameUpToAsciiCase_congr same entry).symm)
        rw [lookup?_of_not_mem _ missing, first, Option.bind_some, stands, Option.map_some]

/-- Names that differ in more than case read what they read before. -/
theorem lookup?_others (apart : sameUpToAsciiCase name other = false) (value : α) :
    lookup? (table.insert (table.firstKeyFor name) value) other = table.lookup? other := by
  have differs : sameUpToAsciiCase (table.firstKeyFor name) other = false := by
    rw [← apart, sameUpToAsciiCase_comm _ other, sameUpToAsciiCase_comm _ other]
    exact sameUpToAsciiCase_congr (table.firstKeyFor_same name) other
  have unequal : table.firstKeyFor name ≠ other := by
    intro equal
    rw [equal, sameUpToAsciiCase_refl] at differs
    cases differs
  have kept {key : String} (close : sameUpToAsciiCase key other = true) : table.firstKeyFor name ≠ key := by
    rintro rfl
    rw [differs] at close
    cases close
  by_cases there : other ∈ table
  · obtain ⟨old, stands⟩ := Option.isSome_iff_exists.1 (Std.ExtTreeMap.isSome_getElem?_iff_mem.2 there)
    rw [lookup?, lookup?, get_insert, if_neg unequal, stands]
  · have missing : other ∉ table.insert (table.firstKeyFor name) value := fun member =>
      there ((mem_insert.1 member).resolve_left unequal)
    have first : firstKey? (table.insert (table.firstKeyFor name) value) (sameUpToAsciiCase · other) =
        table.firstKey? (sameUpToAsciiCase · other) :=
      firstKey?_congr fun key close => mem_insert.trans (or_iff_right (kept close))
    rw [lookup?_of_not_mem _ missing, lookup?_of_not_mem _ there, first]
    cases found : table.firstKey? (sameUpToAsciiCase · other) with
    | none => rfl
    | some key =>
        have close := List.find?_some found
        rw [Option.bind_some, Option.bind_some, get_insert, if_neg (kept close)]

/-- A name that equals a key up to ASCII case is found. -/
theorem lookup?_isSome (there : key ∈ table) (same : sameUpToAsciiCase key name = true) :
    ∃ found value, table.lookup? name = some (found, value) ∧ table[found]? = some value := by
  cases found : table.lookup? name with
  | none =>
      rw [lookup?_eq_none.1 found key there] at same
      cases same
  | some entry => exact ⟨entry.1, entry.2, rfl, (lookup?_eq_some found).1⟩

/-- Writing under the first key of a name keeps the keys apart. -/
theorem CaseDistinct.insertFirst {table : Table α} (distinct : table.CaseDistinct) (name : String) (value : α) :
    CaseDistinct (table.insert (table.firstKeyFor name) value) := by
  by_cases there : name ∈ table
  · -- The name is the only key of its kind, so it is the first one.
    have first : table.firstKeyFor name ∈ table := by
      unfold firstKeyFor
      cases found : table.firstKey? (sameUpToAsciiCase · name) with
      | none => exact there
      | some key => exact Std.ExtTreeMap.mem_keys.1 (List.mem_of_find?_eq_some found)
    exact distinct.mono fun key member => (mem_insert.1 member).elim (fun equal => equal ▸ first) id
  · have same : table.firstKeyFor name = table.keyFor name := (table.keyFor_of_not_mem there).symm
    rw [same]
    exact distinct.insert name value

end Table

/-! Cards -/

/-- What the names of abilities read after an expression was stored under one of them. -/
structure Card.AbilityReadsBack (before after : Card) (name expression : String) : Prop where
  reads : ∀ other, sameUpToAsciiCase name other = true →
    (other ∈ before.core.abilities → other = before.core.abilityKey name) →
      after.ability? other = some ⟨other, before.core.abilityKey name, expression, false⟩
  /-- Another key that equals the name up to ASCII case hides what was stored. -/
  hides : ∀ other kept, sameUpToAsciiCase name other = true → other ≠ before.core.abilityKey name →
    before.core.abilities[other]? = some kept → after.ability? other = some ⟨other, other, kept, false⟩
  /-- Synonyms are among the names that differ in more than case. -/
  others : ∀ other, sameUpToAsciiCase name other = false → after.ability? other = before.ability? other
  /-- What is stored under a name counts before what is calculated. -/
  shadows : ∀ other, ∀ key ∈ after.core.abilities, sameUpToAsciiCase key other = true →
    ∃ found kept, after.ability? other = some ⟨other, found, kept, false⟩ ∧ after.core.abilities[found]? = some kept
  /-- No key comes to hide another one. -/
  distinct : before.core.abilities.CaseDistinct → after.core.abilities.CaseDistinct

namespace Card

variable {card : Card} {name : String}

/-- What is stored counts before what is calculated. -/
theorem ability?_of_stored {ability : Ability} (stored : card.core.ability? name = some ability) :
    card.ability? name = some ability := by
  cases card with
  | general card => exact stored
  | dnd card => exact stored
  | coc card =>
      change card.ability? name = some ability
      rw [CocCard.ability?, show card.core.ability? name = some ability from stored]

/-- Cards with the same numbers have the same ability for a name that finds the same stored one. -/
theorem ability?_setCore {core : CardCore} (same : core.ability? name = card.core.ability? name) :
    (card.setCore core).ability? name = card.ability? name := by
  cases card with
  | general card => exact same
  | dnd card => exact same
  | coc card =>
      change CocCard.ability? { card with core := core } name = card.ability? name
      unfold CocCard.ability?
      rw [show core.ability? name = card.core.ability? name from same]
      rfl

theorem setAbility_abilities (card : Card) (now : Instant) (name expression : String) :
    (card.setAbility now name expression).1.core.abilities =
      card.core.abilities.insert (card.core.abilityKey name) expression := by
  rw [setAbility, setCore_core, CardCore.setAbility]
  split
  · next kept => exact ((Table.insert_eq_iff _ _ _).2 kept).symm
  · rfl

/-- Whatever card there is, an expression that is stored under a name is read by all names that differ from it at most
in case, except one that is a key of its own. All other names, synonyms of the name included, read what they read
before. -/
theorem setAbility_readsBack (card : Card) (now : Instant) (name expression : String) :
    AbilityReadsBack card (card.setAbility now name expression).1 name expression where
  reads other same own := by
    refine ability?_of_stored ?_
    rw [CardCore.ability?, setAbility_abilities]
    exact congrArg (Option.map _) (Table.lookup?_written _ same own expression)
  hides other kept same apart stands := by
    refine ability?_of_stored ?_
    rw [CardCore.ability?, setAbility_abilities, Table.lookup?, Table.get_insert, if_neg apart.symm, stands]
    rfl
  others other apart := by
    have same : (card.setAbility now name expression).1 =
        card.setCore (card.setAbility now name expression).1.core := by
      rw [setAbility, setCore_core]
    rw [same]
    refine ability?_setCore ?_
    rw [CardCore.ability?, CardCore.ability?, setAbility_abilities]
    exact congrArg (Option.map _) (Table.lookup?_others _ apart expression)
  shadows other key there same := by
    obtain ⟨found, kept, looked, stands⟩ := Table.lookup?_isSome _ there same
    refine ⟨found, kept, ability?_of_stored ?_, stands⟩
    rw [CardCore.ability?, looked]
    rfl
  distinct apart := by
    rw [setAbility_abilities]
    exact apart.insertFirst name expression

/-- What a card file may hold: numbers from which the damage bonus follows. -/
def strong : Json :=
  .object [("type", .string "coc"), ("name", .string "A"),
    ("props", .object [("力量", .int 60), ("体型", .int 70)])]

/-- What a card file may hold: two abilities that differ in case alone. -/
def twins : Json :=
  .object [("type", .string "general"), ("name", .string "A"),
    ("abilities", .object [("PUNCH", .string "1d3"), ("punch", .string "1d4")])]

/-- A synonym reads the calculated damage bonus instead of the stored one, and a name what is stored under itself. -/
theorem setAbility_unread :
    (CocCard.synonyms.keyOf "db" = CocCard.synonyms.keyOf "伤害加值" ∧ ∃ card, ofJson .epoch strong = .ok card ∧
      (card.setAbility .epoch "伤害加值" "1d8").1.ability? "db" = some ⟨"db", "伤害加值", "1d4", true⟩) ∧
    ∃ card, ofJson .epoch twins = .ok card ∧
      (card.setAbility .epoch "punch" "1d6").1.ability? "punch" = some ⟨"punch", "punch", "1d4", false⟩ := by
  have bonus : (ofJson .epoch strong).toOption.any (fun card => decide
      ((card.setAbility .epoch "伤害加值" "1d8").1.ability? "db" = some ⟨"db", "伤害加值", "1d4", true⟩)) = true := by
    decide +kernel
  have twin : (ofJson .epoch twins).toOption.any (fun card => decide
      ((card.setAbility .epoch "punch" "1d6").1.ability? "punch" = some ⟨"punch", "punch", "1d4", false⟩)) = true := by
    decide +kernel
  obtain ⟨strongCard, strongRead, calculated⟩ := (Option.any_eq_true _ _).1 bonus
  obtain ⟨twinCard, twinRead, hidden⟩ := (Option.any_eq_true _ _).1 twin
  exact ⟨⟨by decide +kernel, strongCard, toOption_eq_some.1 strongRead, of_decide_eq_true calculated⟩,
    twinCard, toOption_eq_some.1 twinRead, of_decide_eq_true hidden⟩

end Card

end Tabletop
