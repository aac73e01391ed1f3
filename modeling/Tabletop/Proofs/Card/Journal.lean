/-
This file proves that the record of changes is a faithful journal of the numbers on a card.

Each key belongs to one of the maps in which a card keeps its numbers. The recorded changes of a key lead
from the number that was kept there to the one that is kept in the end, and all of them together, written to
the old maps, give the new ones.
-/

import Tabletop.Proofs.Card.Runs

namespace Tabletop

/-! Journals of maps -/

namespace CardChange

/-- The numbers before and after a change of the entry under a key. -/
def move? (key : String) (change : CardChange) : Option (Option Int × Int) :=
  match change.value with
  | .entry old new => if change.key = key then some (old, new) else none
  | _ => none

theorem move?_same (name key : String) (old : Option Int) (new : Int) :
    move? key ⟨name, key, .entry old new⟩ = some (old, new) :=
  if_pos rfl

theorem move?_other {key other : String} (different : key ≠ other) (name : String) (old : Option Int)
    (new : Int) : move? other ⟨name, key, .entry old new⟩ = none :=
  if_neg different

variable {ι : Type} [DecidableEq ι] (home : String → ι)

/-- The maps after the new number of a change is written under its key. -/
def replay (maps : ι → Values) (change : CardChange) : ι → Values := fun map =>
  match change.value with
  | .entry _ new => if map = home change.key then (maps map).insert change.key new else maps map
  | _ => maps map

end CardChange

/-- Moves lead from a first number to a last one: each of them starts where the one before it ended. -/
inductive Chain : Option Int → List (Option Int × Int) → Option Int → Prop where
  | none (held : Option Int) : Chain held [] held
  | more {old last : Option Int} {new : Int} {moves : List (Option Int × Int)}
      (others : Chain (some new) moves last) : Chain old ((old, new) :: moves) last

theorem Chain.append {first middle last : Option Int} {moves more : List (Option Int × Int)}
    (left : Chain first moves middle) (right : Chain middle more last) :
    Chain first (moves ++ more) last := by
  induction left with
  | none held => exact right
  | more others inductionHypothesis => exact .more (inductionHypothesis right)

/-- Changes tell how the maps became others, if each key belongs to its home. -/
structure Journal {ι : Type} [DecidableEq ι] (home : String → ι) (before after : ι → Values)
    (added : List CardChange) : Prop where
  entries : ∀ change ∈ added, ∃ old new, change.value = .entry old new
  chained : ∀ key, Chain (before (home key))[key]? (added.filterMap (·.move? key)) (after (home key))[key]?
  others : ∀ map key, (∀ change ∈ added, change.key ≠ key) → (after map)[key]? = (before map)[key]?
  replayed : added.foldl (CardChange.replay home) before = after

namespace Journal

variable {ι : Type} [DecidableEq ι] {home : String → ι} {first middle last : ι → Values}
  {added more : List CardChange}

theorem still (home : String → ι) (maps : ι → Values) : Journal home maps maps [] where
  entries := by simp
  chained _ := .none _
  others _ _ _ := rfl
  replayed := rfl

theorem trans (left : Journal home first middle added) (right : Journal home middle last more) :
    Journal home first last (added ++ more) where
  entries change member := by
    rcases List.mem_append.1 member with member | member
    · exact left.entries change member
    · exact right.entries change member
  chained key := by
    rw [List.filterMap_append]
    exact (left.chained key).append (right.chained key)
  others map key unchanged := by
    have early := left.others map key fun change member => unchanged change (List.mem_append_left _ member)
    have late := right.others map key fun change member => unchanged change (List.mem_append_right _ member)
    exact late.trans early
  replayed := by rw [List.foldl_append, left.replayed, right.replayed]

/-- What is recorded of a number that is written to the home of its key. A number that stood there before
changes nothing and is not recorded. -/
theorem ofWrite {before after : ι → Values} {key : String} {value : Int} (name : String)
    (written : after (home key) = (before (home key)).insert key value)
    (kept : ∀ map, map ≠ home key → after map = before map) :
    Journal home before after (if (before (home key))[key]? = some value then []
      else [⟨name, key, .entry (before (home key))[key]? value⟩]) := by
  split
  · next stood =>
    have same : after = before := by
      funext map
      by_cases here : map = home key
      · rw [here, written]
        exact (Table.insert_eq_iff _ _ _).2 stood
      · exact kept map here
    rw [same]
    exact .still home before
  · constructor
    · intro change member
      rw [List.mem_singleton.1 member]
      exact ⟨_, _, rfl⟩
    · intro other
      by_cases same : key = other
      · subst same
        have reached : (after (home key))[key]? = some value := by
          rw [written, Table.get_insert, if_pos rfl]
        rw [reached, List.filterMap_cons_some (CardChange.move?_same name key _ value)]
        exact .more (.none _)
      · have untouched : (after (home other))[other]? = (before (home other))[other]? := by
          by_cases here : home other = home key
          · rw [here, written, Table.get_insert, if_neg same]
          · rw [kept _ here]
        rw [untouched, List.filterMap_cons_none (CardChange.move?_other same name _ value)]
        exact .none _
    · intro map other unchanged
      have different : key ≠ other := unchanged _ (List.mem_singleton_self _)
      by_cases here : map = home key
      · rw [here, written, Table.get_insert, if_neg different]
      · rw [kept map here]
    · funext map
      change (if map = home key then (before map).insert key value else before map) = after map
      split
      · next here => rw [here, written]
      · next elsewhere => exact (kept map elsewhere).symm

end Journal

/-- The record of a core after a number was written. -/
theorem CardCore.record_changes (core : CardCore) (now : Instant) (key : String) (old : Option Int)
    (new : Int) : (core.record now key old new).changes =
      core.changes ++ if old = some new then [] else [⟨core.name, key, .entry old new⟩] := by
  unfold record
  split
  · exact (List.append_nil _).symm
  · rfl

/-! Journals of cards -/

/-- The changes that were added to the record of a card tell how its maps became others. -/
def Journals {γ ι : Type} [DecidableEq ι] (core : γ → CardCore) (home : String → ι) (maps : γ → ι → Values)
    (before after : γ) : Prop :=
  ∃ added, (core after).changes = (core before).changes ++ added ∧
    Journal home (maps before) (maps after) added

namespace Journals

variable {γ ι : Type} [DecidableEq ι] {core : γ → CardCore} {home : String → ι} {maps : γ → ι → Values}

theorem refl (card : γ) : Journals core home maps card card :=
  ⟨[], (List.append_nil _).symm, .still home (maps card)⟩

theorem trans {first middle last : γ} (left : Journals core home maps first middle)
    (right : Journals core home maps middle last) : Journals core home maps first last := by
  obtain ⟨added, record, journal⟩ := left
  obtain ⟨more, moreRecord, moreJournal⟩ := right
  refine ⟨added ++ more, ?_, journal.trans moreJournal⟩
  rw [moreRecord, record, List.append_assoc]

end Journals

namespace CocCard

/-- The part of a card to which a key belongs. -/
def home (key : String) : CocPart :=
  if propNames.contains key then .props
  else if basicNames.contains key then .basic
  else .skills

variable {card : CocCard} {now : Instant} {part : CocPart} {key : String} {value : Int}

theorem put_journals (card : CocCard) (now : Instant) (value : Int) (belongs : home key = part) :
    Journals core home CocCard.part card (card.put now part key value).1 := by
  subst belongs
  refine ⟨_, card.core.record_changes now key _ value, Journal.ofWrite card.core.name ?_ ?_⟩
  · unfold put setPart
    generalize home key = map
    cases map <;> rfl
  · unfold put setPart
    generalize home key = map
    intro other elsewhere
    cases map <;> cases other <;> first | rfl | exact absurd rfl elsewhere

theorem home_of_prop (prop : key ∈ propNames) : home key = .props :=
  if_pos (List.contains_iff_mem.2 prop)

/-- A skill is not written to a key of another part, whatever its case. -/
theorem home_keyFor (skills : Values) (notProp : key ∉ propNames) (notBasic : key ∉ basicNames) :
    home (skills.keyFor key) = .skills := by
  have caseless : ∀ name ∈ propNames ++ basicNames, Text.isCaseless name = true := by decide +kernel
  have apart (name : String) (member : name ∈ propNames ++ basicNames) (other : key ≠ name) :
      skills.keyFor key ≠ name :=
    skills.keyFor_ne (caseless name member) other
  have stillNoProp : ¬propNames.contains (skills.keyFor key) = true := by
    intro prop
    have member := List.contains_iff_mem.1 prop
    exact apart _ (List.mem_append_left _ member) (fun same => notProp (same ▸ member)) rfl
  have stillNoBasic : ¬basicNames.contains (skills.keyFor key) = true := by
    intro basic
    have member := List.contains_iff_mem.1 basic
    exact apart _ (List.mem_append_right _ member) (fun same => notBasic (same ▸ member)) rfl
  rw [home, if_neg stillNoProp, if_neg stillNoBasic]

/-- Writing the mythos records it before the sanity that it lowers. -/
theorem setMythos_journals (card : CocCard) (now : Instant) (value : Int) :
    Journals core home CocCard.part card (card.setMythos now value).1 := by
  have written := card.put_journals now (bounded (some 99) value) (show home mythos = .skills by decide +kernel)
  unfold setMythos
  dsimp only
  split
  · split
    · exact written.trans (put_journals _ now _ (show home sanity = .basic by decide +kernel))
    · exact written
  · exact written

/-- Each rule for writing a number records what it did. -/
theorem EntryRule.journals {result : CocCard × Bool} (rule : EntryRule card now value key result) :
    Journals core home CocCard.part card result.1 := by
  cases rule with
  | prop prop => exact put_journals _ _ _ (home_of_prop prop)
  | hitPoints => exact put_journals _ _ _ (by decide +kernel)
  | magicPoints => exact put_journals _ _ _ (by decide +kernel)
  | sanity => exact put_journals _ _ _ (by decide +kernel)
  | mythos => exact setMythos_journals _ _ _
  | luck => exact put_journals _ _ _ (by decide +kernel)
  | skill notProp notBasic notMythos => exact put_journals _ _ _ (home_keyFor _ notProp notBasic)

theorem setEntry_journals (card : CocCard) (now : Instant) (input : String) (value : Int) :
    Journals core home CocCard.part card (card.setEntry now input value).1 :=
  (card.setEntry_rule now input value).journals

end CocCard

namespace GeneralCard

/-- The only map of a card is the home of all keys. -/
theorem setEntry_journals (card : GeneralCard) (now : Instant) (input : String) (value : Int) :
    Journals core (fun _ => ()) (fun card _ => card.skills) card (card.setEntry now input value).1 :=
  ⟨_, card.core.record_changes now _ _ value,
    Journal.ofWrite card.core.name rfl fun _ elsewhere => absurd rfl elsewhere⟩

end GeneralCard

namespace Card

/-- Cards of one kind stay of this kind when numbers are written, and none of the calls fails. What each of the
calls does to a card all of them do together. -/
theorem writeEach_entries {γ : Type} (wrap : γ → Card) {changes : γ → γ → Prop}
    (still : ∀ card, changes card card)
    (together : ∀ first middle last, changes first middle → changes middle last → changes first last)
    (step : ∀ card now input value, ∃ after changed,
      (wrap card).write now (.entry input value) = .ok (wrap after, changed) ∧ changes card after)
    (calls : List (Instant × String × Int)) (card : γ) :
    ∃ last, (wrap card).writeEach (calls.map fun (now, input, value) => (now, .entry input value)) =
      .ok (wrap last) ∧ changes card last := by
  induction calls generalizing card with
  | nil => exact ⟨card, rfl, still card⟩
  | cons call calls inductionHypothesis =>
      obtain ⟨now, input, value⟩ := call
      obtain ⟨after, changed, written, early⟩ := step card now input value
      obtain ⟨last, done, late⟩ := inductionHypothesis after
      refine ⟨last, ?_, together card after last early late⟩
      rw [List.map_cons, writeEach, List.foldlM_cons, bind_eq_ok]
      exact ⟨wrap after, map_eq_ok.2 ⟨_, written, rfl⟩, done⟩

/-- However many numbers are written to a card, whatever it holds and has recorded before, what is added to its
record is a journal of its numbers. -/
theorem writeEach_journals (calls : List (Instant × String × Int)) :
    (∀ card : CocCard, ∃ last added,
      (coc card).writeEach (calls.map fun (now, input, value) => (now, .entry input value)) =
        .ok (.coc last) ∧
      last.core.changes = card.core.changes ++ added ∧
      Journal CocCard.home card.part last.part added) ∧
    ∀ card : GeneralCard, ∃ last added,
      (general card).writeEach (calls.map fun (now, input, value) => (now, .entry input value)) =
        .ok (.general last) ∧
      last.core.changes = card.core.changes ++ added ∧
      Journal (fun _ => ()) (fun _ => card.skills) (fun _ => last.skills) added := by
  constructor
  · intro card
    obtain ⟨last, done, added, record, journal⟩ := writeEach_entries coc .refl (fun _ _ _ => .trans)
      (fun inner now input value => ⟨_, _, rfl, inner.setEntry_journals now input value⟩) calls card
    exact ⟨last, added, done, record, journal⟩
  · intro card
    obtain ⟨last, done, added, record, journal⟩ := writeEach_entries general .refl (fun _ _ _ => .trans)
      (fun inner now input value => ⟨_, _, rfl, inner.setEntry_journals now input value⟩) calls card
    exact ⟨last, added, done, record, journal⟩

end Card

end Tabletop
