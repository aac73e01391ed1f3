/-
This file proves that decoders read back what is written as JSON, and what holds of all that they read.
-/

import Mathlib.Data.List.Forall2
import Mathlib.Data.List.Induction
import Mathlib.Data.List.Nodup
import Tabletop.Json.Decode
import Tabletop.Proofs.Card.Links

namespace Tabletop

variable {α : Type}

/-! Tables from pairs -/

namespace Table

/-- The last pair with a key counts. The induction adds pairs behind the others. -/
theorem get_ofPairs (pairs : List (String × α)) (name : String) :
    (ofPairs pairs)[name]? = (pairs.reverse.find? (·.1 == name)).map (·.2) := by
  induction pairs using List.reverseRecOn with
  | nil => simp [ofPairs]
  | append_singleton pairs pair inductionHypothesis =>
      have added : ofPairs (pairs ++ [pair]) = (ofPairs pairs).insert pair.1 pair.2 := by
        unfold ofPairs
        rw [List.foldl_concat]
      rw [added, get_insert, inductionHypothesis, List.reverse_concat, List.find?_cons]
      by_cases same : pair.1 = name
      · simp [same]
      · simp [same, beq_false_of_ne same]

variable {pairs : List (String × α)} {name : String} {value : α}

theorem mem_of_get_ofPairs (kept : (ofPairs pairs)[name]? = some value) : (name, value) ∈ pairs := by
  rw [get_ofPairs] at kept
  obtain ⟨pair, found, rfl⟩ := Option.map_eq_some_iff.1 kept
  have same : pair.1 = name := by simpa using List.find?_some found
  exact same ▸ List.mem_reverse.1 (List.mem_of_find?_eq_some found)

/-- If the keys of pairs differ, their table has exactly these pairs. -/
theorem get_ofPairs_iff (different : (pairs.map (·.1)).Nodup) :
    (ofPairs pairs)[name]? = some value ↔ (name, value) ∈ pairs := by
  refine ⟨mem_of_get_ofPairs, fun member => ?_⟩
  have only : ∀ left ∈ pairs.reverse, ∀ right ∈ pairs.reverse,
      (left.1 == name) = true → (right.1 == name) = true → left = right := by
    intro left leftIn right rightIn leftNamed rightNamed
    refine List.inj_on_of_nodup_map different (List.mem_reverse.1 leftIn) (List.mem_reverse.1 rightIn) ?_
    rw [eq_of_beq leftNamed, eq_of_beq rightNamed]
  rw [get_ofPairs, (find?_eq_some_iff_only only).2 ⟨List.mem_reverse.2 member, beq_self_eq_true name⟩]
  rfl

theorem toList_keys_nodup (table : Table α) : (table.toList.map (·.1)).Nodup := by
  have keys : table.toList.map (·.1) = table.keys := Std.ExtTreeMap.map_fst_toList_eq_keys
  rw [keys]
  refine List.Pairwise.imp ?_ (keys_sorted table)
  rintro first _ less rfl
  exact String.lt_irrefl first less

/-- A table is the table of its pairs. -/
theorem ofPairs_toList (table : Table α) : ofPairs table.toList = table := by
  apply Std.ExtTreeMap.ext_getElem?
  intro name
  apply Option.ext
  intro value
  rw [get_ofPairs_iff table.toList_keys_nodup, Std.ExtTreeMap.mem_toList_iff_getElem?_eq_some]

end Table

/-! Records -/

namespace Json

/-- The value of a field. -/
def field? (fields : List (String × Json)) (name : String) : Option Json :=
  (fields.find? (·.1 == name)).map (·.2)

theorem field?_cons (key name : String) (value : Json) (fields : List (String × Json)) :
    field? ((key, value) :: fields) name = if key = name then some value else field? fields name := by
  unfold field?
  rw [List.find?_cons]
  by_cases same : key = name
  · simp [same]
  · simp [same, beq_false_of_ne same]

/-- An object whose keys differ is a record of any of its fields. -/
theorem objectRecord?_object {names : List String} {fields : List (String × Json)}
    (different : (fields.map (·.1)).Nodup) :
    (object fields).objectRecord? names = some (field? fields) := by
  have once : repeats names fields = false := by
    rw [repeats, List.any_eq_false]
    intro name _
    have few : (fields.filter (·.1 == name)).length ≤ 1 := by
      have count := List.nodup_iff_count_le_one.1 different name
      rwa [List.count, List.countP_map, List.countP_eq_length_filter] at count
    simpa using few
  change (if repeats names fields then none else _) = _
  rw [once]
  rfl

/-- An object with all fields of a record is this record. -/
theorem record?_object {names : List String} {fields : List (String × Json)}
    (same : fields.map (·.1) = names) (different : names.Nodup) :
    (object fields).record? names = some (field? fields) :=
  objectRecord?_object (same ▸ different)

end Json

namespace Record

variable {decode : Decoder α} {fields : List (String × Json)} {name : String} {json : Json}
  {value standard : α}

theorem required_field (found : Json.field? fields name = some json) (back : decode json = some value) :
    required (Json.field? fields) name decode = some value :=
  Option.bind_eq_some_iff.2 ⟨json, found, back⟩

theorem withDefault_field (found : Json.field? fields name = some json)
    (back : decode json = some value) :
    withDefault (Json.field? fields) name decode standard = some value := by
  rw [withDefault, found]
  exact back

end Record

/-! Decoders of parts -/

section MapM

variable {β : Type} {step : α → Option β} {items : List α} {values : List β}

theorem mapM_eq_some : items.mapM step = some values ↔
    List.Forall₂ (fun item value => step item = some value) items values := by
  induction items generalizing values with
  | nil => simp [eq_comm]
  | cons item items inductionHypothesis =>
      rw [List.mapM_cons, List.forall₂_cons_left_iff]
      constructor
      · intro read
        obtain ⟨value, first, read⟩ := Option.bind_eq_some_iff.1 read
        obtain ⟨others, rest, read⟩ := Option.bind_eq_some_iff.1 read
        cases read
        exact ⟨value, others, first, inductionHypothesis.1 rest, rfl⟩
      · rintro ⟨value, others, first, rest, rfl⟩
        rw [first, inductionHypothesis.2 rest]
        rfl

theorem exists_of_mem_mapM (read : items.mapM step = some values) {value : β}
    (member : value ∈ values) : ∃ item ∈ items, step item = some value := by
  have each := mapM_eq_some.1 read
  clear read
  induction each with
  | nil => cases member
  | cons first _ inductionHypothesis =>
      rcases List.mem_cons.1 member with rfl | later
      · exact ⟨_, List.mem_cons_self, first⟩
      · obtain ⟨item, listed, same⟩ := inductionHypothesis later
        exact ⟨item, List.mem_cons_of_mem _ listed, same⟩

end MapM

namespace Decoder

variable {item : Decoder α} {encode : α → Json}

theorem list_ofList {values : List α} (back : ∀ value ∈ values, item (encode value) = some value) :
    list item (.ofList encode values) = some values := by
  change (values.map encode).mapM item = some values
  rw [mapM_eq_some, List.forall₂_map_left_iff, List.forall₂_same]
  exact back

theorem list_strings (values : List String) : list string (.strings values) = some values :=
  list_ofList fun _ _ => rfl

theorem option_ofOption {value : Option α} (back : ∀ inner, value = some inner →
    item (encode inner) = some inner ∧ encode inner ≠ .null) :
    option item (.ofOption encode value) = some value := by
  cases value with
  | none => rfl
  | some inner =>
      obtain ⟨same, written⟩ := back inner rfl
      change option item (encode inner) = some (some inner)
      unfold option
      split
      · exact absurd ‹encode inner = .null› written
      · rw [same]
        rfl

theorem below_nat {bound number : Nat} (fits : number < bound) :
    below bound (.nat number) = some number := by
  refine (if_pos ?_).trans rfl
  omega

theorem count_nat {number : Nat} (fits : number < Number.countRange) :
    count (.nat number) = some number := below_nat fits

/-- The pairs of an object are read back if each value is. -/
theorem table_object {pairs : List (String × α)}
    (back : ∀ pair ∈ pairs, item (encode pair.2) = some pair.2) :
    table item (.object (pairs.map fun pair => (pair.1, encode pair.2))) =
      some (Table.ofPairs pairs) := by
  have read : (pairs.map fun pair => (pair.1, encode pair.2)).mapM (fun field =>
      (item field.2).map fun value => (field.1, value)) = some pairs := by
    rw [mapM_eq_some, List.forall₂_map_left_iff, List.forall₂_same]
    intro pair member
    rw [back pair member]
    rfl
  exact congrArg (fun result => result >>= fun pairs => some (Table.ofPairs pairs)) read

/-- A table is read back from the object of its entries. -/
theorem table_ofTable {entries : Table α} (back : ∀ (name : String) (value : α),
    entries[name]? = some value → item (encode value) = some value) :
    table item (.ofTable encode entries) = some entries := by
  have each : ∀ pair ∈ entries.toList, item (encode pair.2) = some pair.2 := fun pair member =>
    back pair.1 pair.2 (Std.ExtTreeMap.mem_toList_iff_getElem?_eq_some.1 member)
  have read := table_object each
  rwa [Table.ofPairs_toList] at read

end Decoder

/-! What decoders give -/

namespace Decoder

variable {property : α → Prop} {item : Decoder α}

/-- All values that are read have a property. -/
def Ensures (item : Decoder α) (property : α → Prop) : Prop :=
  ∀ json value, item json = some value → property value

theorem Ensures.list (ensures : item.Ensures property) :
    (Decoder.list item).Ensures fun values => ∀ value ∈ values, property value := by
  intro json values read value member
  cases json with
  | array items =>
      obtain ⟨part, -, found⟩ := exists_of_mem_mapM read member
      exact ensures part value found
  | _ => cases read

theorem Ensures.option (ensures : item.Ensures property) :
    (Decoder.option item).Ensures fun value => ∀ inner, value = some inner → property inner := by
  rintro json value read inner rfl
  unfold Decoder.option at read
  split at read
  · cases read
  · obtain ⟨_, found, same⟩ := Option.map_eq_some_iff.1 read
    cases same
    exact ensures json inner found

theorem Ensures.table (ensures : item.Ensures property) :
    (Decoder.table item).Ensures fun entries =>
      ∀ (name : String) (value : α), entries[name]? = some value → property value := by
  intro json entries read name value kept
  cases json with
  | object fields =>
      obtain ⟨pairs, listed, read⟩ := Option.bind_eq_some_iff.1 read
      cases read
      obtain ⟨field, -, found⟩ := exists_of_mem_mapM listed (Table.mem_of_get_ofPairs kept)
      obtain ⟨found, part, same⟩ := Option.map_eq_some_iff.1 found
      cases same
      exact ensures field.2 value part
  | _ => cases read

theorem Ensures.required {record : Record} {name : String} {value : α} (ensures : item.Ensures property)
    (read : record.required name item = some value) : property value := by
  obtain ⟨json, -, read⟩ := Option.bind_eq_some_iff.1 read
  exact ensures json value read

theorem Ensures.withDefault {record : Record} {name : String} {value standard : α}
    (ensures : item.Ensures property) (standardToo : property standard)
    (read : record.withDefault name item standard = some value) : property value := by
  unfold Record.withDefault at read
  split at read
  · exact ensures _ value read
  · cases read
    exact standardToo

theorem count_ensures : count.Ensures (· < Number.countRange) := by
  intro json number read
  unfold count below at read
  split at read
  · split at read
    · next bounds =>
      cases read
      omega
    · cases read
  · cases read

end Decoder

end Tabletop
