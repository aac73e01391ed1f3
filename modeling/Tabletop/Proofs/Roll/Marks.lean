/-
This file proves which growth marks are left when all marked skills were checked.

A check takes away the mark under the key of the entry that was checked. A key finds its own entry, and writes take
no key from a card. So only the marks that were no keys when they were set can be left.
-/

import Tabletop.Proofs.Card.Made
import Tabletop.Proofs.Roll.Growth

namespace Tabletop

open Step Text

namespace CocCard

variable {card after : CocCard} {now : Instant} {key name : String} {value : Int}

/-! Keys of entries -/

/-- The key of the entry that a name finds. -/
def key? (card : CocCard) (name : String) : Option String :=
  (card.entryOf? name).map (·.key)

/-- A number is kept under the key, or follows from the other numbers. -/
def HasKey (card : CocCard) (key : String) : Prop :=
  (∃ part, key ∈ card.part part) ∨ (card.computed? key).isSome

theorem Source.hasKey (source : card.Source key value) : card.HasKey key := by
  cases source with
  | kept part stands => exact .inl ⟨part, Table.mem_of_get stands⟩
  | computed follows _ => exact .inr (Option.isSome_of_eq_some follows)

theorem key?_hasKey (found : card.key? name = some key) : card.HasKey key := by
  obtain ⟨entry, read, rfl⟩ := Option.map_eq_some_iff.1 found
  exact (entryOf?_source read).hasKey

/-- A number that follows from others is found if none is kept in its place. -/
theorem plainEntryOf?_computed (follows : card.computed? key = some value)
    (missing : ∀ part, key ∉ card.part part) (input : String) :
    card.plainEntryOf? input key = some (.computed input key value) := by
  obtain ⟨caseless, named⟩ := computed?_plain follows
  have nothing (part : CocPart) : card.stored? input key part = none := by
    rw [stored?, Table.lookup?_eq_none.2, Option.map_none]
    intro other there
    refine Bool.eq_false_iff.2 fun same => missing part ?_
    rwa [← sameUpToAsciiCase_caseless caseless ((sameUpToAsciiCase_comm key other).trans same)] at there
  unfold plainEntryOf?
  dsimp only
  rw [named, nothing, nothing, nothing, follows]
  rfl

/-- On an ordered card a key finds its own entry. -/
theorem InOrder.key?_eq (ordered : card.InOrder) : card.key? key = some key ↔ card.HasKey key := by
  refine ⟨key?_hasKey, fun has => ?_⟩
  by_cases kept : ∃ part, key ∈ card.part part
  · obtain ⟨part, there⟩ := kept
    obtain ⟨value, stands⟩ := Option.isSome_iff_exists.1 (Std.ExtTreeMap.isSome_getElem?_iff_mem.2 there)
    have settled := ordered.settled there
    rw [← ordered.atHome part key there] at stands
    rw [key?, settled.entryOf? stands (by rw [settled.named]; exact sameUpToAsciiCase_refl key)]
    rfl
  · obtain ⟨value, follows⟩ := Option.isSome_iff_exists.1 (has.resolve_left kept)
    have plain := plainEntryOf?_computed follows (fun part there => kept ⟨part, there⟩) key
    rw [key?, entryOf?_of_plain plain]
    rfl

/-- The key that a name finds finds itself. -/
theorem InOrder.key?_key? (ordered : card.InOrder) (found : card.key? name = some key) :
    card.key? key = some key :=
  ordered.key?_eq.2 (key?_hasKey found)

/-! Keys that stay -/

/-- All keys of all parts stay. -/
def KeepsKeys (before after : CocCard) : Prop :=
  ∀ part, ∀ key ∈ before.part part, key ∈ after.part part

theorem KeepsKeys.trans {first middle last : CocCard} (left : KeepsKeys first middle)
    (right : KeepsKeys middle last) : KeepsKeys first last :=
  fun part key there => right part key (left part key there)

theorem Stores.keepsKeys (stores : Stores card after key value) : KeepsKeys card after := by
  intro part other there
  by_cases here : part = home key ∧ other = card.keyIn key
  · obtain ⟨rfl, rfl⟩ := here
    exact Table.mem_of_get stores.kept
  rw [← Std.ExtTreeMap.isSome_getElem?_iff_mem] at there ⊢
  by_cases lowers : key = mythos ∧ part = .basic ∧ other = sanity
  · obtain ⟨mythos, rfl, rfl⟩ := lowers
    change after.basic[sanity]?.isSome = true
    rw [stores.lowered mythos, Option.isSome_map]
    exact there
  · rwa [stores.others part other here lowers]

theorem bulk?_isSome (card : CocCard) :
    card.bulk?.isSome = (card.props["力量"]?.isSome || card.props["体型"]?.isSome) := by
  unfold bulk?
  cases card.props["力量"]? with
  | some strength => rfl
  | none => cases card.props["体型"]? <;> rfl

theorem maxHitPoints?_isSome (card : CocCard) :
    card.maxHitPoints?.isSome = (card.props["体质"]?.isSome && card.props["体型"]?.isSome) := by
  unfold maxHitPoints?
  cases card.props["体质"]? with
  | none => rfl
  | some constitution => cases card.props["体型"]? <;> rfl

theorem movement?_isSome (card : CocCard) : card.movement?.isSome =
    (card.props["力量"]?.isSome && (card.props["敏捷"]?.isSome && card.props["体型"]?.isSome)) := by
  unfold movement?
  cases card.props["力量"]? with
  | none => rfl
  | some strength =>
      cases card.props["敏捷"]? with
      | none => rfl
      | some dexterity => cases card.props["体型"]? <;> rfl

/-- What follows from numbers whose keys stay still follows. -/
theorem KeepsKeys.computed? (keeps : KeepsKeys card after) (follows : (card.computed? key).isSome) :
    (after.computed? key).isSome := by
  have props (name : String) (there : card.props[name]?.isSome) : after.props[name]?.isSome := by
    rw [Std.ExtTreeMap.isSome_getElem?_iff_mem] at there ⊢
    exact keeps .props name there
  unfold CocCard.computed? at follows ⊢
  split at follows
  · simp only [Option.isSome_map, bulk?_isSome, Bool.or_eq_true] at follows ⊢
    exact follows.imp (props _) (props _)
  · simp only [maxHitPoints?_isSome, Bool.and_eq_true] at follows ⊢
    exact follows.imp (props _) (props _)
  · simp only [maxMagicPoints?, Option.isSome_map] at follows ⊢
    exact props _ follows
  · simp only [movement?_isSome, Bool.and_eq_true] at follows ⊢
    exact follows.imp (props _) (And.imp (props _) (props _))
  · rw [Option.isSome_map] at follows ⊢
    exact props _ follows
  · exact props _ follows
  · exact follows

theorem KeepsKeys.hasKey (keeps : KeepsKeys card after) (has : card.HasKey key) : after.HasKey key :=
  has.imp (fun ⟨part, there⟩ => ⟨part, keeps part key there⟩) keeps.computed?

end CocCard

namespace Card

variable {now : Instant} {first last : Card}

theorem Writes.kind (writes : Writes now first last) : last.kind = first.kind := by
  induction writes with
  | start => rfl
  | call _ _ written inductionHypothesis => exact (write_kind written).trans inductionHypothesis
  | saves _ _ inductionHypothesis => exact inductionHypothesis

/-- What writes make of an ordered card of Call of Cthulhu is ordered, and all its keys stay. -/
theorem Writes.keepsKeys (writes : Writes now first last) {card : CocCard} (is : first = .coc card)
    (ordered : card.InOrder) : ∃ after, last = .coc after ∧ after.InOrder ∧ card.KeepsKeys after := by
  induction writes with
  | start => exact ⟨card, is, ordered, fun _ _ there => there⟩
  | @call middle last changed before call written inductionHypothesis =>
      obtain ⟨between, rfl, held, keeps⟩ := inductionHypothesis
      have kind := write_kind written
      cases last with
      | coc after =>
          refine ⟨after, rfl, held.write written, keeps.trans ?_⟩
          by_cases entry : ∃ input value, call = .entry input value
          · obtain ⟨input, value, rfl⟩ := entry
            cases write_entry written with
            | coc => exact (between.setEntry_stores now input value).keepsKeys
          · have same := write_sameNumbers written fun input value is => entry ⟨input, value, is⟩
            intro part key there
            rwa [CocCard.part_of_sameNumbers same]
      | general => cases kind
      | dnd => cases kind
  | saves before saving inductionHypothesis =>
      obtain ⟨_, impossible, _⟩ := inductionHypothesis
      cases impossible

end Card

namespace CocCard

variable {card : CocCard} {now : Instant} {key mark : String}

/-! Marks that are taken away -/

theorem mem_clearMark (card : CocCard) (now : Instant) (key : String) :
    mark ∈ (card.clearMark now key).1.growthMarks ↔ mark ∈ card.growthMarks ∧ mark ≠ key := by
  unfold clearMark
  split
  · simp only [Std.ExtTreeSet.mem_erase, Std.LawfulEqCmp.compare_eq_iff_eq, ne_eq]
    exact ⟨fun both => ⟨both.2, fun same => both.1 same.symm⟩, fun both => ⟨fun same => both.2 same.symm, both.1⟩⟩
  · next missing =>
    refine ⟨fun there => ⟨there, ?_⟩, And.left⟩
    rintro rfl
    exact missing (Std.ExtTreeSet.contains_iff_mem.2 there)

/-- Exactly the marks under some keys are taken away, if there are such keys. -/
theorem mem_clearGrowth (card : CocCard) (now : Instant) {keys : List String} (named : keys ≠ []) :
    mark ∈ (card.clearGrowth now keys).1.growthMarks ↔ mark ∈ card.growthMarks ∧ mark ∉ keys := by
  unfold clearGrowth
  dsimp only
  rw [if_neg (by simpa using named)]
  -- Whether something was taken away before does not matter.
  clear named
  generalize false = changed
  induction keys generalizing card changed with
  | nil => simp
  | cons key keys inductionHypothesis =>
      rw [List.foldl_cons, inductionHypothesis, mem_clearMark, List.mem_cons, not_or, and_assoc]

theorem grow_marks (card : CocCard) (now : Instant) (checks : List GrowthCheck) :
    (card.grow now checks).growthMarks = card.growthMarks := by
  unfold grow
  apply List.foldlRecOn (motive := fun (after : CocCard) => after.growthMarks = card.growthMarks)
  · rfl
  · intro after same check _
    split
    · exact (after.setEntry_stores now check.key check.new).marks.trans same
    · exact same

end CocCard

/-- Settling checks takes away exactly the marks under their keys. -/
theorem CocCard.mem_settle {card : CocCard} {now : Instant} {checks : List GrowthCheck} {mark : String} :
    mark ∈ (card.settle now checks).growthMarks ↔
      mark ∈ card.growthMarks ∧ ∀ check ∈ checks, check.key ≠ mark := by
  have other : (∀ check ∈ checks, check.key ≠ mark) ↔ mark ∉ checks.map (·.key) := by
    simp only [List.mem_map, not_exists, not_and]
  rw [settle, other]
  split
  · next none => simp [none]
  · next some => rw [mem_clearGrowth _ now (mt List.map_eq_nil_iff.1 some), grow_marks]

namespace GrowthRoll

variable {growth after : GrowthRoll} {faces rest : Faces}

/-! The checks of all marked skills -/

/-- What is checked for a name: the name, the key of its entry, and whether its value stands in the command. -/
def topic? (card : Option Card) (name : String) (value : Option Int) : Option (String × String × Bool) :=
  (subject? card name value).map fun subject => (name, subject.1, value.isSome)

/-- What was checked. -/
def topics (growth : GrowthRoll) : List (String × String × Bool) :=
  growth.checks.map fun check => (check.skill, check.key, check.isInline)

theorem reply_ok {text : StateM Faces String} (done : reply text growth faces = ((.ok (), after), rest)) :
    after.action = growth.action ∧ after.topics = growth.topics := by
  obtain ⟨_, _, _, drawn, stored⟩ := bind_ok done
  cases drawn
  cases stored
  exact ⟨rfl, rfl⟩

theorem rollCheck_ok {card : Option Card} {name : String} {value : Option Int}
    (done : rollCheck card name value growth faces = ((.ok (), after), rest)) :
    after.action = growth.action ∧ after.topics = growth.topics ++ (topic? card name value).toList := by
  unfold rollCheck at done
  unfold topic?
  cases found : subject? card name value with
  | none =>
    rw [found] at done
    cases done
    exact ⟨rfl, (List.append_nil _).symm⟩
  | some subject =>
  obtain ⟨key, old⟩ := subject
  rw [found] at done
  have added (rolled : Int) (gain : Option Int)
      (is : after = { growth with checks := growth.checks ++ [⟨name, key, value.isSome, rolled, old, gain⟩] }) :
      after.action = growth.action ∧ after.topics = growth.topics ++ [(name, key, value.isSome)] := by
    rw [is, topics, topics, List.map_append]
    exact ⟨rfl, rfl⟩
  obtain ⟨result, between, left, rolled, done⟩ := bind_ok done
  obtain rfl : growth = between := congrArg (·.1.2) rolled
  dsimp only at done
  split at done
  · obtain ⟨gain, middle, _, gained, stored⟩ := bind_ok done
    rw [← bind_pure_comp] at gained
    obtain ⟨_, _, _, rolled, same⟩ := bind_ok gained
    cases same
    obtain rfl : growth = middle := congrArg (·.1.2) rolled
    cases stored
    exact added _ _ rfl
  · obtain ⟨_, _, _, same, stored⟩ := bind_ok done
    cases same
    cases stored
    exact added _ none rfl

/-- Each name that stands for something is checked once, in the order of the names. -/
theorem forM_rollCheck_ok {card : Option Card} {skills : List (String × Option Int)}
    (done : (skills.forM fun (name, value) => rollCheck card name value) growth faces = ((.ok (), after), rest)) :
    after.action = growth.action ∧
      after.topics = growth.topics ++ skills.filterMap fun skill => topic? card skill.1 skill.2 := by
  induction skills generalizing growth faces with
  | nil =>
      cases done
      exact ⟨rfl, (List.append_nil _).symm⟩
  | cons skill skills inductionHypothesis =>
      rw [List.forM_eq_forM, List.forM_cons] at done
      obtain ⟨_, between, left, first, others⟩ := bind_ok done
      obtain ⟨same, adds⟩ := rollCheck_ok first
      obtain ⟨sameLater, addsLater⟩ := inductionHypothesis others
      refine ⟨sameLater.trans same, ?_⟩
      rw [addsLater, adds, List.append_assoc, List.filterMap_cons]
      cases topic? card skill.1 skill.2 <;> rfl

theorem rollChecks_ok {scene : Scene} {skills : List (String × Option Int)}
    (done : rollChecks scene skills growth faces = ((.ok (), after), rest)) :
    after.action = growth.action ∧ after.topics = growth.topics ++
      skills.filterMap fun skill => topic? (card? scene) skill.1 skill.2 := by
  unfold rollChecks at done
  obtain ⟨_, between, left, checked, replied⟩ := bind_ok done
  obtain ⟨same, adds⟩ := forM_rollCheck_ok checked
  obtain ⟨sameLater, still⟩ := reply_ok replied
  exact ⟨sameLater.trans same, still.trans adds⟩

/-- Each marked skill of the card is checked once under the key of its entry. A mark without an entry is passed
over. -/
def ChecksMarks (growth : GrowthRoll) (card : CocCard) : Prop :=
  growth.topics = card.growthSkills.filterMap fun mark => (card.key? mark).map (mark, ·, false)

theorem roll_marked {scene : Scene} {source : String} {card : CocCard}
    (done : roll scene (.new source) faces = ((.ok (), after), rest)) (all : after.action = .checkMarked)
    (held : card? scene = some (.coc card)) : after.ChecksMarks card := by
  unfold roll at done
  obtain ⟨_, _, _, stored, done⟩ := bind_ok done
  cases stored
  obtain ⟨_, _, _, looked, done⟩ := bind_ok done
  cases looked
  rw [held] at done
  dsimp only at done
  -- What was asked for stays, so that the other commands are ruled out.
  cases asked : (new source).action with
  | checkMarked =>
      rw [asked] at done
      obtain ⟨_, adds⟩ := rollChecks_ok done
      rw [ChecksMarks, adds, held, List.filterMap_map]
      refine congrArg (List.filterMap · card.growthSkills) (funext fun mark => ?_)
      simp only [Function.comp_apply, topic?, subject?, CocCard.key?, Option.map_map]
      rfl
  | check skills =>
      rw [asked] at done
      cases (rollChecks_ok done).1.symm.trans all
  | list =>
      rw [asked] at done
      by_cases empty : (marked (some (.coc card))).isEmpty = true
      · rw [if_pos empty] at done
        cases (reply_ok done).1.symm.trans all
      · rw [if_neg empty] at done
        cases (reply_ok done).1.symm.trans all
  | mark names =>
      rw [asked] at done
      cases names with
      | nil =>
          cases (reply_ok done).1.symm.trans all
      | cons name names =>
          obtain ⟨_, _, _, chosen, done⟩ := bind_ok done
          cases chosen
          cases (reply_ok done).1.symm.trans all
  | clear names =>
      rw [asked] at done
      obtain ⟨_, _, _, chosen, done⟩ := bind_ok done
      cases chosen
      cases (reply_ok done).1.symm.trans all

theorem ChecksMarks.key {card : CocCard} (checks : growth.ChecksMarks card) {key : String} :
    (∃ check ∈ ownChecks growth.checks, check.key = key) ↔
      ∃ mark ∈ card.growthMarks, card.key? mark = some key := by
  have topic : (∃ check ∈ ownChecks growth.checks, check.key = key) ↔
      ∃ mark, (mark, key, false) ∈ growth.topics := by
    simp only [mem_ownChecks, topics, List.mem_map, Prod.mk.injEq]
    constructor
    · rintro ⟨check, ⟨member, own⟩, same⟩
      exact ⟨check.skill, check, member, rfl, same, own⟩
    · rintro ⟨mark, check, member, _, same, own⟩
      exact ⟨check, ⟨member, own⟩, same⟩
  rw [topic, checks]
  simp only [List.mem_filterMap, Option.map_eq_some_iff, Prod.mk.injEq, CocCard.growthSkills,
    Std.ExtTreeSet.mem_toList]
  constructor
  · rintro ⟨_, mark, member, _, found, rfl, rfl, _⟩
    exact ⟨mark, member, found⟩
  · rintro ⟨mark, member, found⟩
    exact ⟨mark, mark, member, key, found, rfl, rfl, trivial⟩

/-- On an ordered card settling the checks of all marks leaves exactly the marks that are not their own keys. -/
theorem ChecksMarks.mem_settle {card : CocCard} (checks : growth.ChecksMarks card) (ordered : card.InOrder)
    (now : Instant) {mark : String} : mark ∈ (card.settle now (ownChecks growth.checks)).growthMarks ↔
      mark ∈ card.growthMarks ∧ card.key? mark ≠ some mark := by
  rw [CocCard.mem_settle]
  refine and_congr_right fun there => ⟨fun unchecked own => ?_, fun other check member same => other ?_⟩
  · obtain ⟨check, member, same⟩ := checks.key.2 ⟨mark, there, own⟩
    exact unchecked check member same
  · obtain ⟨marked, _, found⟩ := checks.key.1 ⟨check, member, same⟩
    exact ordered.key?_key? found

end GrowthRoll

end Tabletop
