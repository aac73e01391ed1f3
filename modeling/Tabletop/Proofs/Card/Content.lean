/-
This file defines what is stored of a card, and when a write reports what it did.
-/

import Tabletop.Card

namespace Tabletop

/-- What is stored of a core: all but the time of its last change and the record of its changes. -/
def CardCore.content (core : CardCore) : CardCore :=
  { core with lastModified := .epoch, changes := [] }

/-- A change of an entry leads to another value. -/
def CardChange.Moves (change : CardChange) : Prop :=
  ∀ old new, change.value = .entry old new → old ≠ some new

namespace Card

/-- What is stored of a card. -/
def content (card : Card) : Card :=
  card.setCore card.core.content

@[simp] theorem setCore_same (card : Card) : card.setCore card.core = card := by
  cases card <;> rfl

@[simp] theorem setCore_setCore (card : Card) (inner outer : CardCore) :
    (card.setCore inner).setCore outer = card.setCore outer := by
  cases card <;> rfl

@[simp] theorem content_core (card : Card) : card.content.core = card.core.content :=
  setCore_core card _

/-- Cards of one content differ in nothing but their cores. -/
theorem setCore_of_content {before after : Card} (same : after.content = before.content) :
    after.setCore before.core = before := by
  have restored := congrArg (fun card => card.setCore before.core) same
  simpa only [content, setCore_setCore, setCore_same] using restored

/-- A write reports what it did. It tells of a change exactly if the stored content is another one,
and exactly if it adds to the record of changes. -/
structure Reports (before after : Card) (changed : Bool) (added : List CardChange) : Prop where
  record : after.core.changes = before.core.changes ++ added
  name : after.name = before.name
  quiet : changed = false → after = before ∧ added = []
  loud : changed = true → after.content ≠ before.content ∧ added ≠ []
  moves : ∀ change ∈ added, change.Moves

namespace Reports

/-- A write that does nothing reports nothing. -/
theorem still (card : Card) : Reports card card false [] where
  record := by simp
  name := rfl
  quiet _ := ⟨rfl, rfl⟩
  loud told := by simp at told
  moves := by simp

/-- One change is recorded, and the stored content is another one. -/
theorem ofChange {before after : Card} {change : CardChange}
    (record : after.core.changes = before.core.changes ++ [change]) (name : after.name = before.name)
    (other : after.content ≠ before.content) (moves : change.Moves) :
    Reports before after true [change] where
  record := record
  name := name
  quiet told := by simp at told
  loud _ := ⟨other, by simp⟩
  moves := by simpa using moves

theorem changed_of_content {before after : Card} {changed : Bool} {added : List CardChange}
    (told : Reports before after changed added) (other : after.content ≠ before.content) :
    changed = true := by
  cases changed with
  | true => rfl
  | false => exact absurd (congrArg content (told.quiet rfl).1) other

theorem changed_of_added {before after : Card} {changed : Bool} {added : List CardChange}
    (told : Reports before after changed added) (some : added ≠ []) : changed = true := by
  cases changed with
  | true => rfl
  | false => exact absurd (told.quiet rfl).2 some

/-- A write of an entry is recorded unless the value stays the same. -/
theorem ofRecord {before after : Card} {now : Instant} {key : String} {old : Option Int} {new : Int}
    (core : after.core = before.core.record now key old new)
    (same : after.setCore before.core = before ↔ old = some new) :
    ∃ added, Reports before after (decide (old ≠ some new)) added := by
  by_cases kept : old = some new
  · rw [CardCore.record, if_pos kept] at core
    have equal : after = before := by
      rw [← setCore_same after, core]
      exact same.2 kept
    refine ⟨[], ?_⟩
    rw [equal, decide_eq_false (not_not_intro kept)]
    exact still before
  · rw [CardCore.record, if_neg kept] at core
    refine ⟨[⟨before.name, key, .entry old new⟩], ?_⟩
    rw [decide_eq_true kept]
    apply ofChange
    · rw [core]
      rfl
    · simp only [Card.name, core, CardCore.push]
    · exact fun equal => kept (same.1 (setCore_of_content equal))
    · intro _ _ equal
      cases equal
      exact kept

/-- Two writes report together what they did, if the second one does not undo the first one. -/
theorem append {first middle last : Card} {changed again : Bool} {added more : List CardChange}
    (left : Reports first middle changed added) (right : Reports middle last again more)
    (lasting : changed = true → last.content ≠ first.content) :
    Reports first last (changed || again) (added ++ more) where
  record := by rw [right.record, left.record, List.append_assoc]
  name := right.name.trans left.name
  quiet told := by
    obtain ⟨firstQuiet, secondQuiet⟩ := Bool.or_eq_false_iff.1 told
    obtain ⟨rfl, rfl⟩ := left.quiet firstQuiet
    obtain ⟨rfl, rfl⟩ := right.quiet secondQuiet
    exact ⟨rfl, rfl⟩
  loud told := by
    cases changed with
    | true => exact ⟨lasting rfl, by simp [(left.loud rfl).2]⟩
    | false =>
      obtain ⟨rfl, rfl⟩ := left.quiet rfl
      exact right.loud told
  moves change member := by
    rcases List.mem_append.1 member with member | member
    · exact left.moves change member
    · exact right.moves change member

end Reports

/-- A change tells whenever it leads to another stored content. The card keeps its name. -/
structure Tells (before after : Card) (changed : Bool) : Prop where
  name : after.name = before.name
  quiet : changed = false → after.content = before.content

namespace Tells

theorem still (card : Card) : Tells card card false := ⟨rfl, fun _ => rfl⟩

theorem trans {first middle last : Card} {changed again : Bool} (left : Tells first middle changed)
    (right : Tells middle last again) : Tells first last (changed || again) where
  name := right.name.trans left.name
  quiet told := by
    obtain ⟨firstQuiet, secondQuiet⟩ := Bool.or_eq_false_iff.1 told
    exact (right.quiet secondQuiet).trans (left.quiet firstQuiet)

/-- A write that reports what it did tells of its change. -/
theorem ofReports {before after : Card} {changed : Bool}
    (reports : ∃ added, Reports before after changed added) : Tells before after changed := by
  obtain ⟨added, told⟩ := reports
  exact ⟨told.name, fun quiet => congrArg content (told.quiet quiet).1⟩

/-- A change that cannot fail tells what its result tells. -/
theorem ofOk {before after : Card} {result : Card × Bool} {changed : Bool}
    (told : Tells before result.1 result.2)
    (same : (.ok result : Except Fault (Card × Bool)) = .ok (after, changed)) :
    Tells before after changed := by
  cases same
  exact told

end Tells

end Card

end Tabletop
