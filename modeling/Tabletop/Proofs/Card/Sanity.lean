/-
This file proves that no calls bring sanity above what the knowledge of the mythos leaves.

Sanity and the mythos stand in two parts of a card. Each has one setter, and no name leads around it.
-/

import Tabletop.Proofs.Card.Runs

namespace Tabletop

open Number Text

/-- A number that fits into 64 bits stays the same. -/
theorem Number.wrap_of_fits {number : Int} (low : minWord ≤ number) (high : number ≤ maxWord) :
    wrap number = number :=
  Int.bmod_eq_of_le low (Int.lt_of_le_of_lt high (by decide))

namespace CocCard

variable {card : CocCard} {now : Instant} {key : String} {value : Int}

/-- The mythos is between zero and ninety-nine, and sanity has no place but its own. -/
structure MythosBounded (card : CocCard) : Prop where
  mythosRange : 0 ≤ card.skills.getD mythos 0 ∧ card.skills.getD mythos 0 ≤ 99
  sanityNotProp : card.props[sanity]? = none
  sanityNotSkill : card.skills[sanity]? = none

/-- Sanity is between zero and what the mythos leaves of ninety-nine. -/
structure SanityBounded (card : CocCard) : Prop extends card.MythosBounded where
  sanityRange : ∀ value, card.basic[sanity]? = some value →
    0 ≤ value ∧ value ≤ 99 - card.skills.getD mythos 0

theorem new_sanityBounded (name : String) (now : Instant) : (new name now).SanityBounded where
  mythosRange := by simp [new]
  sanityNotProp := by simp [new]
  sanityNotSkill := by simp [new]
  sanityRange := by simp [new]

theorem MythosBounded.maxSanity (known : card.MythosBounded) :
    card.maxSanity = 99 - card.skills.getD mythos 0 := by
  have range := known.mythosRange
  have word : minWord ≤ 0 ∧ 99 ≤ maxWord := by decide
  apply wrap_of_fits <;> omega

/-- However sanity was before, its setter brings it into its bounds. -/
theorem MythosBounded.setSanity (known : card.MythosBounded) (now : Instant) (value : Int) :
    (card.setSanity now value).1.SanityBounded where
  mythosRange := known.mythosRange
  sanityNotProp := known.sanityNotProp
  sanityNotSkill := known.sanityNotSkill
  sanityRange other stands := by
    change (card.basic.insert sanity _)[sanity]? = some other at stands
    rw [Table.get_insert, if_pos rfl, known.maxSanity] at stands
    cases stands
    have range := known.mythosRange
    have high : bounded (some (99 - card.skills.getD mythos 0)) value ≤
        max 0 (99 - card.skills.getD mythos 0) := bounded_le rfl value
    refine ⟨bounded_nonneg _ value, ?_⟩
    change _ ≤ 99 - card.skills.getD mythos 0
    omega

theorem SanityBounded.putProp (held : card.SanityBounded) (prop : key ∈ propNames) :
    (card.put now .props key value).1.SanityBounded where
  mythosRange := held.mythosRange
  sanityNotProp := by
    have other : key ≠ sanity := fun same => absurd (same ▸ prop) (by decide)
    change (card.props.insert key value)[sanity]? = none
    rw [Table.get_insert, if_neg other, held.sanityNotProp]
  sanityNotSkill := held.sanityNotSkill
  sanityRange := held.sanityRange

theorem SanityBounded.putBasic (held : card.SanityBounded) (other : key ≠ sanity) :
    (card.put now .basic key value).1.SanityBounded where
  mythosRange := held.mythosRange
  sanityNotProp := held.sanityNotProp
  sanityNotSkill := held.sanityNotSkill
  sanityRange sane stands := by
    change (card.basic.insert key value)[sanity]? = some sane at stands
    rw [Table.get_insert, if_neg other] at stands
    exact held.sanityRange sane stands

theorem SanityBounded.putSkill (held : card.SanityBounded) (notMythos : key ≠ mythos)
    (notSanity : key ≠ sanity) : (card.put now .skills key value).1.SanityBounded := by
  have kept : (card.put now .skills key value).1.skills.getD mythos 0 =
      card.skills.getD mythos 0 := by
    change (card.skills.insert key value).getD mythos 0 = _
    rw [Std.ExtTreeMap.getD_eq_getD_getElem?, Std.ExtTreeMap.getD_eq_getD_getElem?,
      Table.get_insert, if_neg notMythos]
  exact
    { mythosRange := by
        rw [kept]
        exact held.mythosRange
      sanityNotProp := held.sanityNotProp
      sanityNotSkill := by
        change (card.skills.insert key value)[sanity]? = none
        rw [Table.get_insert, if_neg notSanity, held.sanityNotSkill]
      sanityRange := by
        rw [kept]
        exact held.sanityRange }

theorem put_mythos (card : CocCard) (now : Instant) (value : Int) :
    (card.put now .skills mythos value).1.skills.getD mythos 0 = value := by
  change (card.skills.insert mythos value).getD mythos 0 = value
  rw [Std.ExtTreeMap.getD_eq_getD_getElem?, Table.get_insert, if_pos rfl, Option.getD_some]

/-- The mythos is in its bounds after it was written, before sanity follows. -/
theorem SanityBounded.putMythos (held : card.SanityBounded) (now : Instant) (value : Int) :
    (card.put now .skills mythos (bounded (some 99) value)).1.MythosBounded := by
  have known := card.put_mythos now (bounded (some 99) value)
  exact
    { mythosRange := by
        rw [known]
        exact ⟨bounded_nonneg _ value, bounded_le rfl value⟩
      sanityNotProp := held.sanityNotProp
      sanityNotSkill := by
        change (card.skills.insert mythos _)[sanity]? = none
        rw [Table.get_insert, if_neg (by decide), held.sanityNotSkill] }

/-- The setter of the mythos lowers sanity if there is too much of it. -/
theorem SanityBounded.setMythos (held : card.SanityBounded) (now : Instant) (value : Int) :
    (card.setMythos now value).1.SanityBounded := by
  have written := held.putMythos now value
  unfold CocCard.setMythos
  dsimp only
  split
  · next current stands =>
    split
    · exact written.setSanity now current
    · next enough =>
      rw [written.maxSanity] at enough
      refine { written with sanityRange := fun sane kept => ?_ }
      rw [stands] at kept
      cases kept
      exact ⟨(held.sanityRange current stands).1, Int.not_lt.1 enough⟩
  · next absent =>
    refine { written with sanityRange := fun sane kept => ?_ }
    rw [absent] at kept
    cases kept

/-- Every rule for writing a number keeps sanity in its bounds. -/
theorem EntryRule.sanityBounded {result : CocCard × Bool} (rule : EntryRule card now value key result)
    (held : card.SanityBounded) : result.1.SanityBounded := by
  cases rule with
  | prop prop => exact held.putProp prop
  | hitPoints => exact held.putBasic (by decide)
  | magicPoints => exact held.putBasic (by decide)
  | sanity => exact held.setSanity now value
  | mythos => exact held.setMythos now value
  | luck => exact held.putBasic (by decide)
  | skill notProp notBasic notMythos =>
      have notSanity : key ≠ CocCard.sanity := fun same => absurd (same ▸ notBasic) (by decide)
      exact held.putSkill (Table.keyFor_ne _ (by decide) notMythos)
        (Table.keyFor_ne _ (by decide) notSanity)

theorem SanityBounded.congr {after : CocCard} (held : card.SanityBounded)
    (props : after.props = card.props) (basic : after.basic = card.basic)
    (skills : after.skills = card.skills) : after.SanityBounded where
  mythosRange := by
    rw [skills]
    exact held.mythosRange
  sanityNotProp := by rw [props, held.sanityNotProp]
  sanityNotSkill := by rw [skills, held.sanityNotSkill]
  sanityRange := by
    rw [basic, skills]
    exact held.sanityRange

/-- Every call keeps sanity in its bounds, and none fails. -/
theorem SanityBounded.write (held : card.SanityBounded) (now : Instant) (call : CardWrite) :
    ∃ after changed, (Card.coc card).write now call = .ok (.coc after, changed) ∧
      after.SanityBounded := by
  by_cases entry : ∃ input value, call = .entry input value
  · obtain ⟨input, value, rfl⟩ := entry
    exact ⟨_, _, rfl, (card.setEntry_rule now input value).sanityBounded held⟩
  · have room : (Card.coc card).SlotsOpen := by
      intro dnd is
      cases is
    obtain ⟨after, changed, written⟩ := Card.write_ok now call room
    have same := Card.write_sameNumbers written fun input value is => entry ⟨input, value, is⟩
    cases same with
    | core _ core => exact ⟨_, changed, written, held.congr rfl rfl rfl⟩
    | marks _ core marks => exact ⟨_, changed, written, held.congr rfl rfl rfl⟩

/-! Reading sanity -/

theorem stored?_caseless (caseless : isCaseless key = true) (input : String) (part : CocPart) :
    card.stored? input key part =
      (card.part part)[key]?.map fun value => .stored input key value part.kind := by
  rw [stored?, Table.lookup?_caseless _ caseless, Option.map_map]
  rfl

/-- No name of a resource starts with a word for a difficulty. -/
theorem split_of_basic {input : String} (basic : synonyms.keyOf input ∈ basicNames) :
    Difficulty.split input.toList = (.normal, input.toList) := by
  have plain : ∀ key ∈ basicNames, ∀ name ∈ key :: synonyms.namesOf key, ∀ word ∈ Difficulty.words,
      after? (asciiLower word.1.toList) (asciiLower name.toList) = none := by decide
  obtain ⟨name, member, same⟩ := synonyms.keyOf_cases input
  apply Difficulty.split_of_plain
  intro word listed
  rw [Difficulty.afterWord?, ← eq_of_beq same, plain _ basic name member word listed, Option.map_none]

/-- Each name of sanity reads the stored number. -/
theorem MythosBounded.entryOf? (known : card.MythosBounded) {input : String}
    (named : synonyms.keyOf input = sanity) :
    card.entryOf? input = card.basic[sanity]?.map fun value =>
      { Entry.stored input sanity value .basic with modifier := .difficulty .normal } := by
  have caseless : isCaseless sanity = true := by decide
  have plain : card.plainEntryOf? input input =
      card.basic[sanity]?.map fun value => .stored input sanity value .basic := by
    rw [plainEntryOf?, named]
    rw [stored?_caseless caseless, stored?_caseless caseless, stored?_caseless caseless]
    simp only [CocCard.part]
    rw [known.sanityNotProp, known.sanityNotSkill]
    cases card.basic[sanity]? with
    | some value => rfl
    | none => rfl
  rw [CocCard.entryOf?, plain, split_of_basic (named ▸ by decide)]
  cases card.basic[sanity]? with
  | none => rfl
  | some value =>
      rw [Option.map_some, Option.map_some]
      simp only [Entry.withDifficulty, Entry.stored, Difficulty.divisor, Int.tdiv_one]

/-- Each name of sanity leads to its setter. -/
theorem setEntry_sanity {input : String} (named : synonyms.keyOf input = sanity) :
    card.setEntry now input value = card.setSanity now value := by
  unfold setEntry
  rw [named]
  rfl

/-- Sanity that is written is at least zero, and at most what the mythos leaves. -/
theorem MythosBounded.sanity_setSanity (known : card.MythosBounded) (now : Instant) (value : Int) :
    (card.setSanity now value).1.basic[sanity]? =
      some (max 0 (min value (99 - card.skills.getD mythos 0))) := by
  have room : max (99 - card.skills.getD mythos 0) 0 = 99 - card.skills.getD mythos 0 := by
    have range := known.mythosRange
    omega
  change (card.basic.insert sanity (bounded (some card.maxSanity) value))[sanity]? = _
  rw [Table.get_insert, if_pos rfl, known.maxSanity, bounded, room]

end CocCard

/-- Calls on a new card, whatever they write, keep sanity and the mythos in their bounds. Each name of
sanity reads the number that is bounded. -/
theorem Card.writeEach_boundsSanity (name : String) (created : Instant)
    (calls : List (Instant × CardWrite)) :
    ∃ card : CocCard, (Card.new .coc name created).writeEach calls = .ok (.coc card) ∧
      card.SanityBounded ∧
      ∀ input, CocCard.synonyms.keyOf input = CocCard.sanity →
        card.entryOf? input = card.basic[CocCard.sanity]?.map fun value =>
          { Entry.stored input CocCard.sanity value .basic with modifier := .difficulty .normal } := by
  have step (card : Card) (now : Instant) (call : CardWrite)
      (held : ∃ coc : CocCard, card = .coc coc ∧ coc.SanityBounded) :
      ∃ after changed, card.write now call = .ok (after, changed) ∧
        ∃ coc : CocCard, after = .coc coc ∧ coc.SanityBounded := by
    obtain ⟨coc, rfl, bounded⟩ := held
    obtain ⟨after, changed, written, kept⟩ := bounded.write now call
    exact ⟨.coc after, changed, written, after, rfl, kept⟩
  obtain ⟨last, done, card, rfl, bounded⟩ := writeEach_total step calls
    ⟨_, rfl, CocCard.new_sanityBounded name created⟩
  exact ⟨card, done, bounded, fun input named => bounded.entryOf? named⟩

end Tabletop
