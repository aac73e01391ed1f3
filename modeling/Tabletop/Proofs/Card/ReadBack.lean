/-
This file proves that a number that was written is what every name of its key reads.

Each key stands in the part of a card where it belongs, and no two keys of a part differ in case alone. So what
is kept under a key is all that its names can find.
-/

import Tabletop.Proofs.Card.Journal
import Tabletop.Proofs.Card.Places
import Tabletop.Proofs.Card.Sanity

namespace Tabletop

open Text

theorem Text.sameUpToAsciiCase_trans {first middle last : String}
    (left : sameUpToAsciiCase first middle = true) (right : sameUpToAsciiCase middle last = true) :
    sameUpToAsciiCase first last = true :=
  beq_iff_eq.2 ((eq_of_beq left).trans (eq_of_beq right))

theorem CardCore.record_content (core : CardCore) (now : Instant) (key : String) (old : Option Int)
    (new : Int) : (core.record now key old new).content = core.content := by
  unfold record
  split <;> rfl

/-! Keys that differ in more than case -/

namespace Table

variable {α : Type} {table other : Table α} {key name : String} {value : α}

theorem mem_insert : name ∈ table.insert key value ↔ key = name ∨ name ∈ table := by
  rw [Std.ExtTreeMap.mem_insert, Std.LawfulEqCmp.compare_eq_iff_eq]

theorem mem_of_get (kept : table[key]? = some value) : key ∈ table :=
  Std.ExtTreeMap.isSome_getElem?_iff_mem.1 (kept ▸ rfl)

/-- What is found is kept under a key that differs from the name at most in case. -/
theorem lookup?_eq_some (found : table.lookup? name = some (key, value)) :
    table[key]? = some value ∧ sameUpToAsciiCase key name = true := by
  unfold lookup? at found
  split at found
  · next kept =>
    cases found
    exact ⟨kept, sameUpToAsciiCase_refl _⟩
  · have close := List.find?_some found
    exact ⟨Std.ExtTreeMap.mem_toList_iff_getElem?_eq_some.1 (List.mem_of_find?_eq_some found), close⟩

theorem lookup?_eq_none :
    table.lookup? name = none ↔ ∀ key ∈ table, sameUpToAsciiCase key name = false := by
  constructor
  · intro nothing key there
    obtain ⟨value, kept⟩ := Option.isSome_iff_exists.1 (Std.ExtTreeMap.isSome_getElem?_iff_mem.2 there)
    unfold lookup? at nothing
    split at nothing
    · cases nothing
    · have listed := Std.ExtTreeMap.mem_toList_iff_getElem?_eq_some.2 kept
      exact Bool.eq_false_iff.2 (List.find?_eq_none.1 nothing _ listed)
  · intro differs
    cases found : table.lookup? name with
    | none => rfl
    | some entry =>
        obtain ⟨kept, same⟩ := lookup?_eq_some found
        rw [differs _ (mem_of_get kept)] at same
        cases same

/-- What is kept under a key is found by all names that differ from it at most in case, if no other key
does. -/
theorem lookup?_of_alone (kept : table[key]? = some value)
    (alone : ∀ name ∈ table, sameUpToAsciiCase name key = true → name = key)
    (same : sameUpToAsciiCase key name = true) : table.lookup? name = some (key, value) := by
  cases found : table.lookup? name with
  | none =>
      rw [lookup?_eq_none.1 found key (mem_of_get kept)] at same
      cases same
  | some entry =>
      obtain ⟨stands, close⟩ := lookup?_eq_some found
      have back := (sameUpToAsciiCase_comm name key).trans same
      have here := alone entry.1 (mem_of_get stands) (sameUpToAsciiCase_trans close back)
      rw [here, kept] at stands
      rw [Option.some.inj stands, ← here]

/-- A name is kept under a key of the table, or it differs from all of them in more than case. -/
theorem keyFor_cases (table : Table α) (name : String) :
    table.keyFor name ∈ table ∨ table.lookup? name = none ∧ table.keyFor name = name := by
  unfold keyFor
  cases found : table.lookup? name with
  | none => exact .inr ⟨rfl, rfl⟩
  | some entry => exact .inl (mem_of_get (lookup?_eq_some found).1)

theorem keyFor_of_alone (alone : ∀ name ∈ table, sameUpToAsciiCase name key = true → name = key) :
    table.keyFor key = key := by
  rcases table.keyFor_cases key with there | ⟨_, same⟩
  · exact alone _ there (table.keyFor_same key)
  · exact same

theorem keyFor_caseless (caseless : isCaseless key = true) : table.keyFor key = key :=
  keyFor_of_alone fun other _ same =>
    (sameUpToAsciiCase_caseless caseless ((sameUpToAsciiCase_comm key other).trans same)).symm

/-- No two keys of the table differ in ASCII case alone. -/
def CaseDistinct (table : Table α) : Prop :=
  ∀ left ∈ table, ∀ right ∈ table, sameUpToAsciiCase left right = true → left = right

namespace CaseDistinct

theorem empty : CaseDistinct (∅ : Table α) := by
  intro left there
  simp at there

theorem mono (distinct : table.CaseDistinct) (fewer : ∀ key ∈ other, key ∈ table) : other.CaseDistinct :=
  fun left leftThere right rightThere => distinct left (fewer left leftThere) right (fewer right rightThere)

/-- Writing under the key of a name keeps the keys apart. -/
theorem insert (distinct : table.CaseDistinct) (name : String) (value : α) :
    CaseDistinct (table.insert (table.keyFor name) value) := by
  rcases table.keyFor_cases name with there | ⟨nothing, fresh⟩
  · have old {key : String} (member : key ∈ table.insert (table.keyFor name) value) : key ∈ table :=
      (mem_insert.1 member).elim (fun same => same ▸ there) id
    exact fun left leftThere right rightThere => distinct left (old leftThere) right (old rightThere)
  · rw [fresh]
    have apart {key : String} (member : key ∈ table) (same : sameUpToAsciiCase key name = true) : False := by
      rw [lookup?_eq_none.1 nothing key member] at same
      cases same
    intro left leftThere right rightThere same
    rcases mem_insert.1 leftThere with rfl | leftOld
    · rcases mem_insert.1 rightThere with rfl | rightOld
      · rfl
      · exact (apart rightOld ((sameUpToAsciiCase_comm _ _).trans same)).elim
    · rcases mem_insert.1 rightThere with rfl | rightOld
      · exact (apart leftOld same).elim
      · exact distinct left leftOld right rightOld same

end CaseDistinct

end Table

namespace CocCard

variable {card : CocCard} {now : Instant} {part : CocPart} {key name : String} {value : Int}

/-! Keys where they belong -/

/-- Keys that differ in case alone belong to the same part. -/
theorem home_congr {left right : String} (same : sameUpToAsciiCase left right = true) :
    home left = home right := by
  rw [home, home, (contains_congr (by decide +kernel : ∀ name ∈ propNames, isCaseless name = true) same).1,
    (contains_congr (by decide +kernel : ∀ name ∈ basicNames, isCaseless name = true) same).1]

theorem keyOf_keyOf (input : String) : synonyms.keyOf (synonyms.keyOf input) = synonyms.keyOf input := by
  have targets : ∀ pair ∈ synonyms, synonyms.keyOf pair.2 = pair.2 := by decide +kernel
  cases found : synonyms.find? fun pair => sameUpToAsciiCase pair.1 input with
  | some pair =>
      have named : synonyms.keyOf input = pair.2 := by
        rw [Synonyms.keyOf, found]
        rfl
      rw [named, targets pair (List.mem_of_find?_eq_some found)]
  | none =>
      have named : synonyms.keyOf input = input := by
        rw [Synonyms.keyOf, found]
        rfl
      rw [named, named]

/-- All names of a key are written and read under it: the key is no synonym, it stands nowhere but in the part
where it belongs, and no other key of the card differs from it in case alone. -/
structure Settled (card : CocCard) (key : String) : Prop where
  named : synonyms.keyOf key = key
  alone : ∀ part, ∀ other ∈ card.part part, sameUpToAsciiCase other key = true →
    part = home key ∧ other = key

/-- Each key stands in the part where it belongs, no key is a synonym, and no two keys of a part differ in case
alone. -/
structure InOrder (card : CocCard) : Prop where
  atHome : ∀ part, ∀ key ∈ card.part part, home key = part
  named : ∀ part, ∀ key ∈ card.part part, synonyms.keyOf key = key
  distinct : ∀ part, (card.part part).CaseDistinct

theorem new_inOrder (name : String) (now : Instant) : (new name now).InOrder where
  atHome part key there := by cases part <;> simp [new, CocCard.part] at there
  named part key there := by cases part <;> simp [new, CocCard.part] at there
  distinct part := by cases part <;> exact .empty

theorem InOrder.congr {after : CocCard} (ordered : card.InOrder)
    (parts : ∀ part, after.part part = card.part part) : after.InOrder where
  atHome part key there := ordered.atHome part key (parts part ▸ there)
  named part key there := ordered.named part key (parts part ▸ there)
  distinct part := parts part ▸ ordered.distinct part

/-- The keys of an ordered card are settled. -/
theorem InOrder.settled (ordered : card.InOrder) (there : key ∈ card.part part) : card.Settled key where
  named := ordered.named part key there
  alone other name member same := by
    have here := ordered.atHome part key there
    have belongs : other = part := by
      rw [← ordered.atHome other name member, home_congr same, here]
    subst belongs
    exact ⟨here.symm, ordered.distinct other name member key there same⟩

/-- The key under which a number is kept: one that stands on the card already, if there is one. -/
def keyIn (card : CocCard) (key : String) : String :=
  (card.part (home key)).keyFor key

theorem keyIn_same (card : CocCard) (key : String) : sameUpToAsciiCase (card.keyIn key) key = true :=
  (card.part (home key)).keyFor_same key

theorem home_keyIn (card : CocCard) (key : String) : home (card.keyIn key) = home key :=
  home_congr (card.keyIn_same key)

theorem keyIn_caseless (card : CocCard) (caseless : isCaseless key = true) : card.keyIn key = key :=
  Table.keyFor_caseless caseless

theorem part_put (card : CocCard) (now : Instant) (part other : CocPart) (key : String) (value : Int) :
    (card.put now part key value).1.part other =
      if other = part then (card.part part).insert key value else card.part other := by
  cases part <;> cases other <;> rfl

theorem Settled.keyIn (settled : card.Settled key) : card.keyIn key = key :=
  Table.keyFor_of_alone fun other there same => (settled.alone _ other there same).2

/-- What is kept under a settled key is what all its names stand for. Numbers that follow from others, or that
untrained skills have, do not count then. -/
theorem Settled.plainEntryOf? (settled : card.Settled key) (kept : (card.part (home key))[key]? = some value)
    (same : sameUpToAsciiCase (synonyms.keyOf name) key = true) (input : String) :
    card.plainEntryOf? input name = some (.stored input key value (home key).kind) := by
  have back := (sameUpToAsciiCase_comm key _).trans same
  have elsewhere {part : CocPart} (other : part ≠ home key) :
      card.stored? input (synonyms.keyOf name) part = none := by
    rw [stored?, Table.lookup?_eq_none.2, Option.map_none]
    intro standing there
    refine Bool.eq_false_iff.2 fun close => other ?_
    exact (settled.alone part standing there (sameUpToAsciiCase_trans close same)).1
  have here : card.stored? input (synonyms.keyOf name) (home key) =
      some (.stored input key value (home key).kind) := by
    rw [stored?, Table.lookup?_of_alone kept (fun other there same => (settled.alone _ other there same).2) back]
    rfl
  unfold CocCard.plainEntryOf?
  generalize home key = part at elsewhere here ⊢
  dsimp only
  cases part with
  | props => rw [here, Option.some_or]
  | skills => rw [elsewhere (by decide), here, Option.none_or, Option.some_or]
  | basic =>
      rw [elsewhere (by decide), elsewhere (by decide), here, Option.none_or, Option.none_or, Option.some_or]

/-- A name that is read as it is has no difficulty, whatever it begins with. -/
theorem entryOf?_of_plain {input : String} {entry : Entry}
    (plain : card.plainEntryOf? input input = some entry) :
    card.entryOf? input = some (entry.withDifficulty .normal) := by
  rw [CocCard.entryOf?, plain]

theorem Settled.entryOf? (settled : card.Settled key) (kept : (card.part (home key))[key]? = some value)
    (same : sameUpToAsciiCase (synonyms.keyOf name) key = true) :
    card.entryOf? name = some
      { Entry.stored name key value (home key).kind with modifier := .difficulty .normal } := by
  rw [entryOf?_of_plain (settled.plainEntryOf? kept same name)]
  simp only [Entry.withDifficulty, Entry.stored, Difficulty.divisor, Int.tdiv_one]

/-! What is written where -/

/-- The number that a card keeps when a number is written under a key. -/
def admitted (card : CocCard) (key : String) (value : Int) : Int :=
  if key = hitPoints then bounded card.maxHitPoints? value
  else if key = magicPoints then bounded card.maxMagicPoints? value
  else if key = sanity then bounded (some card.maxSanity) value
  else if key = mythos then bounded (some 99) value
  else value

/-- The keys whose numbers have limits. -/
def limitedNames : List String :=
  [hitPoints, magicPoints, sanity, mythos]

theorem admitted_unlimited (card : CocCard) (value : Int) (other : key ∉ limitedNames) :
    card.admitted key value = value := by
  simp only [limitedNames, List.mem_cons, List.not_mem_nil, or_false, not_or] at other
  rw [admitted, if_neg other.1, if_neg other.2.1, if_neg other.2.2.1, if_neg other.2.2.2]

/-- All numbers but that of the mythos are written in one way. -/
theorem EntryRule.eq_put {result : CocCard × Bool} (rule : EntryRule card now value key result)
    (other : key ≠ CocCard.mythos) :
    result = card.put now (home key) (card.keyIn key) (card.admitted key value) := by
  have plain {name : String} (caseless : isCaseless name = true) (part : CocPart) (number : Int)
      (belongs : home name = part) (admits : card.admitted name value = number) :
      card.put now part name number =
        card.put now (home name) (card.keyIn name) (card.admitted name value) := by
    rw [card.keyIn_caseless caseless, belongs, admits]
  cases rule with
  | prop prop =>
      have caseless : ∀ name ∈ propNames, isCaseless name = true := by decide +kernel
      have limitless : ∀ name ∈ propNames, name ∉ limitedNames := by
        decide +kernel
      exact plain (caseless key prop) .props value (home_of_prop prop)
        (card.admitted_unlimited value (limitless key prop))
  | hitPoints => exact plain (by decide +kernel) .basic _ (by decide +kernel) rfl
  | magicPoints => exact plain (by decide +kernel) .basic _ (by decide +kernel) rfl
  | sanity => exact plain (by decide +kernel) .basic _ (by decide +kernel) rfl
  | mythos => exact absurd rfl other
  | luck =>
      exact plain (by decide +kernel) .basic value (by decide +kernel)
        (card.admitted_unlimited value (by decide +kernel))
  | skill notProp notBasic notMythos =>
      have belongs : home key = .skills := by
        rw [home, if_neg (mt List.contains_iff_mem.1 notProp), if_neg (mt List.contains_iff_mem.1 notBasic)]
      have limitless : key ∉ limitedNames := by
        simp only [limitedNames, basicNames, List.mem_cons, List.not_mem_nil, or_false, not_or] at notBasic ⊢
        exact ⟨notBasic.1, notBasic.2.1, notBasic.2.2.1, notMythos⟩
      rw [keyIn, card.admitted_unlimited value limitless, belongs]
      rfl

theorem setEntry_eq_put {input : String} (named : synonyms.keyOf input = key) (other : key ≠ mythos) :
    card.setEntry now input value = card.put now (home key) (card.keyIn key) (card.admitted key value) := by
  have rule := card.setEntry_rule now input value
  rw [named] at rule
  exact rule.eq_put other

theorem setEntry_mythos {input : String} (named : synonyms.keyOf input = mythos) :
    card.setEntry now input value = card.setMythos now value := by
  rw [setEntry, named]
  rfl

/-- What a number that is written under a key makes of a card: it is kept under the key, and no other number is
touched, except that the mythos lowers sanity. -/
structure Stores (before after : CocCard) (key : String) (value : Int) : Prop where
  kept : (after.part (home key))[before.keyIn key]? = some (before.admitted key value)
  others : ∀ part name, ¬(part = home key ∧ name = before.keyIn key) →
    ¬(key = mythos ∧ part = .basic ∧ name = sanity) →
    (after.part part)[name]? = (before.part part)[name]?
  lowered : key = mythos →
    after.basic[sanity]? = before.basic[sanity]?.map (min · (99 - before.admitted mythos value))
  marks : after.growthMarks = before.growthMarks
  content : after.core.content = before.core.content

/-- Of the resources the mythos lowers sanity alone, to what it leaves of ninety-nine. -/
theorem setMythos_basic (card : CocCard) (now : Instant) (value : Int) (name : String) :
    (card.setMythos now value).1.basic[name]? =
      if name = sanity then card.basic[sanity]?.map (min · (99 - bounded (some 99) value))
      else card.basic[name]? := by
  have low : 0 ≤ bounded (some 99) value := bounded_nonneg _ value
  have high : bounded (some 99) value ≤ max 0 99 := bounded_le rfl value
  have limit : (card.put now .skills mythos (bounded (some 99) value)).1.maxSanity =
      99 - bounded (some 99) value := by
    have word : Number.minWord ≤ 0 ∧ 99 ≤ Number.maxWord := by decide
    rw [maxSanity, put_mythos]
    apply Number.wrap_of_fits <;> omega
  rcases setMythos_cases rfl with ⟨current, stands, tooMuch, same⟩ | ⟨enough, same⟩
  · rw [same, stands, Option.map_some]
    change (card.basic.insert sanity (bounded _ current))[name]? = _
    rw [limit] at tooMuch ⊢
    rw [Table.get_insert]
    by_cases here : name = sanity
    · rw [if_pos here, if_pos here.symm]
      dsimp only [bounded] at tooMuch low high ⊢
      congr 1
      omega
    · rw [if_neg here, if_neg (Ne.symm here)]
  · rw [same]
    change card.basic[name]? = _
    split
    · next here =>
      rw [here]
      cases stands : card.basic[sanity]? with
      | none => rfl
      | some current =>
          have fits := enough current stands
          rw [limit] at fits
          rw [Option.map_some, min_eq_left fits]
    · rfl

theorem setMythos_content (card : CocCard) (now : Instant) (value : Int) :
    (card.setMythos now value).1.core.content = card.core.content ∧
      (card.setMythos now value).1.growthMarks = card.growthMarks := by
  have written := card.core.record_content now mythos card.skills[mythos]? (bounded (some 99) value)
  rcases setMythos_cases rfl with ⟨current, _, _, same⟩ | ⟨_, same⟩
  · rw [same]
    exact ⟨(CardCore.record_content _ now _ _ _).trans written, rfl⟩
  · rw [same]
    exact ⟨written, rfl⟩

theorem setMythos_stores (card : CocCard) (now : Instant) (value : Int) :
    Stores card (card.setMythos now value).1 mythos value := by
  obtain ⟨props, skills⟩ := card.setMythos_skills now value
  obtain ⟨content, marks⟩ := card.setMythos_content now value
  have basic := card.setMythos_basic now value
  have belongs : home mythos = .skills := by decide +kernel
  have key : card.keyIn mythos = mythos := card.keyIn_caseless (by decide +kernel)
  have admits : card.admitted mythos value = bounded (some 99) value := rfl
  refine ⟨?_, ?_, ?_, marks, content⟩
  · rw [belongs, key, admits]
    refine (congrArg (·[mythos]?) skills).trans ?_
    rw [Table.get_insert, if_pos rfl]
  · intro part name elsewhere notSanity
    rw [belongs, key] at elsewhere
    cases part with
    | props => exact congrArg (·[name]?) props
    | skills =>
        refine (congrArg (·[name]?) skills).trans ?_
        rw [Table.get_insert, if_neg fun same => elsewhere ⟨rfl, same.symm⟩]
        rfl
    | basic => exact (basic name).trans (if_neg fun same => notSanity ⟨rfl, rfl, same⟩)
  · intro _
    rw [basic, if_pos rfl, admits]

theorem put_stores (card : CocCard) (now : Instant) (value : Int) (other : key ≠ mythos) :
    Stores card (card.put now (home key) (card.keyIn key) (card.admitted key value)).1 key value where
  kept := by rw [part_put, if_pos rfl, Table.get_insert, if_pos rfl]
  others part name elsewhere _ := by
    rw [part_put]
    split
    · next here => rw [Table.get_insert, if_neg fun same => elsewhere ⟨here, same.symm⟩, here]
    · rfl
  lowered is := absurd is other
  marks := by
    generalize home key = part
    cases part <;> rfl
  content := card.core.record_content _ _ _ _

theorem setEntry_stores (card : CocCard) (now : Instant) (input : String) (value : Int) :
    Stores card (card.setEntry now input value).1 (synonyms.keyOf input) value := by
  by_cases named : synonyms.keyOf input = mythos
  · rw [setEntry_mythos named, named]
    exact card.setMythos_stores now value
  · rw [setEntry_eq_put rfl named]
    exact card.put_stores now value named

/-- The only name that can be new on the card is the key. -/
theorem Stores.mem {after : CocCard} (stores : Stores card after key value) {part : CocPart} {name : String}
    (there : name ∈ after.part part) :
    name ∈ card.part part ∨ part = home key ∧ name = card.keyIn key := by
  by_cases here : part = home key ∧ name = card.keyIn key
  · exact .inr here
  left
  by_cases lowers : key = mythos ∧ part = .basic ∧ name = sanity
  · obtain ⟨mythos, rfl, rfl⟩ := lowers
    have same := stores.lowered mythos
    rw [← Std.ExtTreeMap.isSome_getElem?_iff_mem] at there ⊢
    change after.basic[sanity]?.isSome = true at there
    rwa [same, Option.isSome_map] at there
  · rw [← Std.ExtTreeMap.isSome_getElem?_iff_mem] at there ⊢
    rwa [stores.others part name here lowers] at there

/-! Writing to ordered cards -/

/-- What holds of an ordered card after a number was written under a key: every name of the key reads it. -/
structure ReadsBack (before after : CocCard) (key : String) (value : Int) : Prop
    extends Stores before after key value where
  read : ∀ name, sameUpToAsciiCase (synonyms.keyOf name) key = true →
    after.entryOf? name = some
      { Entry.stored name (before.keyIn key) (before.admitted key value) (home key).kind with
        modifier := .difficulty .normal }

theorem Stores.inOrder {after : CocCard} (stores : Stores card after key value)
    (named : synonyms.keyOf key = key) (ordered : card.InOrder) : after.InOrder where
  atHome part name there := by
    rcases stores.mem there with old | ⟨rfl, rfl⟩
    · exact ordered.atHome part name old
    · exact card.home_keyIn key
  named part name there := by
    rcases stores.mem there with old | ⟨rfl, rfl⟩
    · exact ordered.named part name old
    · rcases Table.keyFor_cases (card.part (home key)) key with stood | ⟨_, fresh⟩
      · exact ordered.named _ _ stood
      · exact (congrArg synonyms.keyOf fresh).trans (named.trans fresh.symm)
  distinct part := by
    by_cases here : part = home key
    · subst here
      refine ((ordered.distinct (home key)).insert key value).mono fun name there => ?_
      rw [Table.mem_insert]
      exact (stores.mem there).symm.imp_left fun new => new.2.symm
    · exact (ordered.distinct part).mono fun name there =>
        (stores.mem there).resolve_right fun new => here new.1

theorem InOrder.setEntry (ordered : card.InOrder) (now : Instant) (input : String) (value : Int) :
    (card.setEntry now input value).1.InOrder :=
  (card.setEntry_stores now input value).inOrder (keyOf_keyOf input) ordered

theorem InOrder.setEntry_readsBack (ordered : card.InOrder) (now : Instant) (input : String) (value : Int) :
    ReadsBack card (card.setEntry now input value).1 (synonyms.keyOf input) value where
  toStores := card.setEntry_stores now input value
  read name same := by
    have stores := card.setEntry_stores now input value
    generalize named : synonyms.keyOf input = key at stores same ⊢
    have after := ordered.setEntry now input value
    have settled := after.settled (Table.mem_of_get stores.kept)
    have kept := stores.kept
    rw [← card.home_keyIn key] at kept ⊢
    exact settled.entryOf? kept
      (sameUpToAsciiCase_trans same ((sameUpToAsciiCase_comm key _).trans (card.keyIn_same key)))

/-! Calls of all kinds -/

/-- Cards with the same numbers have them in the same parts. -/
theorem part_of_sameNumbers {after : CocCard} (same : Card.SameNumbers (.coc card) (.coc after))
    (part : CocPart) : after.part part = card.part part := by
  generalize is : Card.coc after = last at same
  cases same with
  | core _ core =>
      cases is
      cases part <;> rfl
  | marks _ core marks =>
      cases is
      cases part <;> rfl

theorem InOrder.write {after : CocCard} (ordered : card.InOrder) {call : CardWrite} {changed : Bool}
    (written : (Card.coc card).write now call = .ok (.coc after, changed)) : after.InOrder := by
  by_cases entry : ∃ input value, call = .entry input value
  · obtain ⟨input, value, rfl⟩ := entry
    cases Card.write_entry written with
    | coc => exact ordered.setEntry now input value
  · have same := Card.write_sameNumbers written fun input value is => entry ⟨input, value, is⟩
    exact ordered.congr (part_of_sameNumbers same)

end CocCard

namespace GeneralCard

/-- What holds of a card after a number was written under a name: every name that differs in case alone reads
it, and nothing else is touched. -/
structure ReadsBack (before after : GeneralCard) (input : String) (value : Int) : Prop where
  read : ∀ name, sameUpToAsciiCase name input = true →
    after.entryOf? name = some (.stored name (before.skills.keyFor input) value .skills)
  others : ∀ name, name ≠ before.skills.keyFor input → after.skills[name]? = before.skills[name]?
  content : after.core.content = before.core.content

theorem setEntry_readsBack {card : GeneralCard} (distinct : card.skills.CaseDistinct) (now : Instant)
    (input : String) (value : Int) : ReadsBack card (card.setEntry now input value).1 input value where
  read name same := by
    have back := (sameUpToAsciiCase_comm input name).trans same
    have stands : (card.skills.insert (card.skills.keyFor input) value)[card.skills.keyFor input]? =
        some value := by
      rw [Table.get_insert, if_pos rfl]
    have after := distinct.insert input value
    have found := Table.lookup?_of_alone stands (fun other there => after other there _ (Table.mem_of_get stands))
      (sameUpToAsciiCase_trans (card.skills.keyFor_same input) back)
    exact congrArg (Option.map _) found
  others name other := by
    change (card.skills.insert _ value)[name]? = _
    rw [Table.get_insert, if_neg (Ne.symm other)]
  content := card.core.record_content now _ _ value

end GeneralCard

namespace Card

/-- No calls on a card leave two keys of one table that differ in case alone. -/
theorem write_caseDistinct {card after : GeneralCard} {now : Instant} {call : CardWrite} {changed : Bool}
    (distinct : card.skills.CaseDistinct)
    (written : (general card).write now call = .ok (.general after, changed)) :
    after.skills.CaseDistinct := by
  by_cases entry : ∃ input value, call = .entry input value
  · obtain ⟨input, value, rfl⟩ := entry
    cases write_entry written with
    | general => exact distinct.insert input value
  · have same := write_sameNumbers written fun input value is => entry ⟨input, value, is⟩
    generalize is : Card.general after = last at same
    cases same with
    | core _ core =>
        cases is
        exact distinct

/-- Whatever calls were made on a new card, a number that is written is read back by every name of its key, in
its limits, and no other number changes, except that the mythos lowers sanity. -/
theorem writeEach_readsBack (name : String) (created : Instant) (calls : List (Instant × CardWrite))
    (now : Instant) (input : String) (value : Int) :
    (∃ card after changed, (new .coc name created).writeEach calls = .ok (.coc card) ∧
      (coc card).setEntry now input value = .ok (.coc after, changed) ∧
      card.maxSanity = 99 - card.skills.getD CocCard.mythos 0 ∧
      CocCard.ReadsBack card after (CocCard.synonyms.keyOf input) value) ∧
    ∃ card after changed, (new .general name created).writeEach calls = .ok (.general card) ∧
      (general card).setEntry now input value = .ok (.general after, changed) ∧
      GeneralCard.ReadsBack card after input value := by
  constructor
  · have step (card : Card) (now : Instant) (call : CardWrite)
        (holds : ∃ coc : CocCard, card = .coc coc ∧ coc.InOrder ∧ coc.SanityBounded) :
        ∃ after changed, card.write now call = .ok (after, changed) ∧
          ∃ coc : CocCard, after = .coc coc ∧ coc.InOrder ∧ coc.SanityBounded := by
      obtain ⟨card, rfl, ordered, held⟩ := holds
      obtain ⟨after, changed, written, kept⟩ := held.write now call
      exact ⟨.coc after, changed, written, after, rfl, ordered.write written, kept⟩
    obtain ⟨last, done, card, rfl, ordered, held⟩ := writeEach_total step calls
      ⟨_, rfl, CocCard.new_inOrder name created, CocCard.new_sanityBounded name created⟩
    exact ⟨card, _, _, done, rfl, held.maxSanity, ordered.setEntry_readsBack now input value⟩
  · have step (card : Card) (now : Instant) (call : CardWrite)
        (holds : ∃ plain : GeneralCard, card = .general plain ∧ plain.skills.CaseDistinct) :
        ∃ after changed, card.write now call = .ok (after, changed) ∧
          ∃ plain : GeneralCard, after = .general plain ∧ plain.skills.CaseDistinct := by
      obtain ⟨card, rfl, distinct⟩ := holds
      have room : (general card).SlotsOpen := by
        intro dnd is
        cases is
      obtain ⟨after, changed, written⟩ := write_ok now call room
      have kind := write_kind written
      cases after with
      | general after => exact ⟨_, changed, written, after, rfl, write_caseDistinct distinct written⟩
      | coc => cases kind
      | dnd => cases kind
    obtain ⟨last, done, card, rfl, distinct⟩ := writeEach_total step calls
      ⟨GeneralCard.new name created, rfl, Table.CaseDistinct.empty⟩
    exact ⟨card, _, _, done, rfl, GeneralCard.setEntry_readsBack distinct now input value⟩

end Card

end Tabletop
