/-
This file proves that a write does to a card what it does to any copy of it, at any time, and so that a command does to a
card what it tried on a copy.

Copies have the same content. They may differ in when they were changed last, and in the record of their changes. The
copy is written to when a command is rolled, and the card when the roll is applied.
-/

import Tabletop.Proofs.Card.Places
import Tabletop.Proofs.Card.ReadBack
import Tabletop.Proofs.Roll.Target

namespace Tabletop

/-! Writes to copies -/

namespace CocCard

variable {card : CocCard} {core : CardCore}

theorem put_copy (same : core.content = card.core.content) (now later : Instant) (part : CocPart) (key : String)
    (value : Int) :
    ∃ after, after.content = (card.put now part key value).1.core.content ∧
      CocCard.put { card with core := core } later part key value =
        ({ (card.put now part key value).1 with core := after }, (card.put now part key value).2) := by
  refine ⟨core.record later key (card.part part)[key]? value, ?_, ?_⟩
  · exact (CardCore.record_content _ _ _ _ _).trans (same.trans (CardCore.record_content _ _ _ _ _).symm)
  · cases part <;> rfl

theorem setMythos_copy (same : core.content = card.core.content) (now later : Instant) (value : Int) :
    ∃ after, after.content = (card.setMythos now value).1.core.content ∧
      CocCard.setMythos { card with core := core } later value =
        ({ (card.setMythos now value).1 with core := after }, (card.setMythos now value).2) := by
  obtain ⟨middle, kept, written⟩ := put_copy same now later .skills mythos (bounded (some 99) value)
  unfold setMythos
  rw [written]
  generalize card.put now .skills mythos (bounded (some 99) value) = first at kept
  obtain ⟨first, changed⟩ := first
  dsimp only at kept ⊢
  cases stands : first.basic[sanity]? with
  | none => exact ⟨middle, kept, rfl⟩
  | some current =>
      have limit : maxSanity { first with core := middle } = first.maxSanity := rfl
      dsimp only
      rw [limit]
      by_cases tooMuch : first.maxSanity < current
      · obtain ⟨after, lowered, again⟩ := put_copy kept now later .basic sanity (bounded (some first.maxSanity) current)
        simp only [if_pos tooMuch]
        refine ⟨after, lowered, ?_⟩
        change Prod.map id (changed || ·) (CocCard.put { first with core := middle } later .basic sanity
          (bounded (some first.maxSanity) current)) = _
        rw [again]
        rfl
      · simp only [if_neg tooMuch]
        exact ⟨middle, kept, rfl⟩

theorem setEntry_copy (same : core.content = card.core.content) (now later : Instant) (input : String) (value : Int) :
    ∃ after, after.content = (card.setEntry now input value).1.core.content ∧
      CocCard.setEntry { card with core := core } later input value =
        ({ (card.setEntry now input value).1 with core := after }, (card.setEntry now input value).2) := by
  by_cases named : synonyms.keyOf input = mythos
  · rw [setEntry_mythos named, setEntry_mythos named]
    exact setMythos_copy same now later value
  · rw [setEntry_eq_put rfl named, setEntry_eq_put rfl named]
    exact put_copy same now later _ _ _

end CocCard

namespace DndCard

variable {card written : DndCard} {core : CardCore} {changed : Bool}

theorem put_copy (same : core.content = card.core.content) (now later : Instant) (part : DndPart) (key : String)
    (value : Int) :
    ∃ after, after.content = (card.put now part key value).1.core.content ∧
      DndCard.put { card with core := core } later part key value =
        ({ (card.put now part key value).1 with core := after }, (card.put now part key value).2) := by
  refine ⟨core.record later key (card.part part)[key]? value, ?_, ?_⟩
  · exact (CardCore.record_content _ _ _ _ _).trans (same.trans (CardCore.record_content _ _ _ _ _).symm)
  · cases part <;> rfl

theorem setSaving_copy (same : core.content = card.core.content) (now later : Instant) (key prop : String)
    (proficient : Bool) :
    ∃ after, after.content = (card.setSaving now key prop proficient).1.core.content ∧
      DndCard.setSaving { card with core := core } later key prop proficient =
        ({ (card.setSaving now key prop proficient).1 with core := after },
          (card.setSaving now key prop proficient).2) := by
  unfold setSaving
  dsimp only
  split
  · exact ⟨core, same, rfl⟩
  · exact ⟨_, (CardCore.record_content _ _ _ _ _).trans (same.trans (CardCore.record_content _ _ _ _ _).symm), rfl⟩

theorem setSlot_copy (same : core.content = card.core.content) (now later : Instant) {key slotLevel : String}
    {slot : SpellSlot} {value : Int} (done : card.setSlot now key slotLevel slot value = .ok (written, changed)) :
    ∃ after, after.content = written.core.content ∧
      DndCard.setSlot { card with core := core } later key slotLevel slot value =
        .ok ({ written with core := after }, changed) := by
  unfold setSlot at done ⊢
  split at done
  · cases done
  · next room =>
    cases done
    rw [if_neg room]
    exact ⟨_, (CardCore.record_content _ _ _ _ _).trans (same.trans (CardCore.record_content _ _ _ _ _).symm), rfl⟩

theorem setEntry_copy (same : core.content = card.core.content) (now later : Instant) {input : String} {value : Int}
    (done : card.setEntry now input value = .ok (written, changed)) :
    ∃ after, after.content = written.core.content ∧
      DndCard.setEntry { card with core := core } later input value =
        .ok ({ written with core := after }, changed) := by
  have here : place { card with core := core } input = card.place input := rfl
  rw [setEntry_eq_putAt] at done ⊢
  rw [here]
  generalize card.place input = place at done
  cases place with
  | skill key =>
      obtain ⟨after, kept, written⟩ := put_copy same now later .skills key (max 0 (min value 2))
      cases done
      exact ⟨after, kept, congrArg Except.ok written⟩
  | saving key prop =>
      obtain ⟨after, kept, written⟩ := setSaving_copy same now later key prop (0 < value)
      obtain ⟨rfl, rfl⟩ := Prod.mk.inj (Except.ok.inj done)
      exact ⟨after, kept, congrArg Except.ok written⟩
  | hitPoints =>
      obtain ⟨after, kept, written⟩ := put_copy same now later .basic DndCard.hitPoints
        (CocCard.bounded card.basic[maxHitPoints]? value)
      cases done
      exact ⟨after, kept, congrArg Except.ok written⟩
  | slot key slotLevel =>
      unfold putAt at done ⊢
      dsimp only at done ⊢
      cases stands : card.spellSlots[slotLevel]? with
      | none =>
          rw [stands] at done
          cases done
          exact ⟨core, same, rfl⟩
      | some slot =>
          rw [stands] at done
          exact setSlot_copy same now later done
  | part part key =>
      obtain ⟨after, kept, written⟩ := put_copy same now later part key value
      cases done
      exact ⟨after, kept, congrArg Except.ok written⟩

end DndCard

theorem GeneralCard.setEntry_copy {card : GeneralCard} {core : CardCore} (same : core.content = card.core.content)
    (now later : Instant) (input : String) (value : Int) :
    ∃ after, after.content = (card.setEntry now input value).1.core.content ∧
      setEntry { card with core := core } later input value =
        ({ (card.setEntry now input value).1 with core := after }, (card.setEntry now input value).2) :=
  ⟨_, (CardCore.record_content _ _ _ _ _).trans (same.trans (CardCore.record_content _ _ _ _ _).symm), rfl⟩

namespace Card

variable {card copy : Card}

theorem content_setCore (card : Card) {core : CardCore} (same : core.content = card.core.content) :
    (card.setCore core).content = card.content := by
  unfold content
  rw [setCore_core, setCore_setCore, same]

theorem entryOf?_copy (same : copy.content = card.content) (name : String) :
    copy.entryOf? name = card.entryOf? name := by
  have stored (card : Card) : card.content.entryOf? name = card.entryOf? name := by cases card <;> rfl
  rw [← stored copy, same, stored card]

/-- A number that is written to a copy leaves a copy of what it makes of the card, and changes it if it changes the
card. -/
theorem setEntry_copy (same : copy.content = card.content) {now : Instant} {input : String} {value : Int}
    {written : Card} {changed : Bool} (wrote : card.setEntry now input value = .ok (written, changed))
    (later : Instant) :
    ∃ after, copy.setEntry later input value = .ok (after, changed) ∧ after.content = written.content := by
  have cores : copy.core.content = card.core.content := by
    rw [← content_core, same, content_core]
  rw [← setCore_of_content same.symm]
  generalize copy.core = core at cores
  cases card with
  | general card =>
      obtain ⟨after, kept, again⟩ := GeneralCard.setEntry_copy cores now later input value
      obtain ⟨rfl, rfl⟩ := Prod.mk.inj (Except.ok.inj wrote)
      exact ⟨_, congrArg (fun result : GeneralCard × Bool => Except.ok (Card.general result.1, result.2)) again,
        content_setCore (.general _) kept⟩
  | coc card =>
      obtain ⟨after, kept, again⟩ := CocCard.setEntry_copy cores now later input value
      obtain ⟨rfl, rfl⟩ := Prod.mk.inj (Except.ok.inj wrote)
      refine ⟨.coc { (card.setEntry now input value).1 with core := after }, ?_, content_setCore (.coc _) kept⟩
      change Except.ok (Card.coc (CocCard.setEntry { card with core := core } later input value).1,
        (CocCard.setEntry { card with core := core } later input value).2) = _
      rw [again]
      rfl
  | dnd card =>
      obtain ⟨⟨inner, told⟩, done, equal⟩ := map_eq_ok.1 wrote
      cases equal
      obtain ⟨after, kept, again⟩ := DndCard.setEntry_copy cores now later done
      exact ⟨_, congrArg (Except.map fun result : DndCard × Bool => (Card.dnd result.1, result.2)) again,
        content_setCore (.dnd _) kept⟩

end Card

/-! Commands -/

open Number Step

/-- The write tells what trying an assignment made of a card. -/
structure EntryWrite.Tells (write : EntryWrite) (now : Instant) (assignment : Assignment) (before after : Card) :
    Prop where
  input : write.input = String.ofList assignment.name
  old : write.old = (before.entryOf? write.input).map (·.value)
  requested : ∃ amount, (∀ number, readWord? assignment.value = some number → amount = number) ∧
    write.requested = EditRoll.requested assignment.operation write.old amount
  tried : ∃ changed, before.setEntry now write.input write.requested = .ok (after, changed)
  key : write.key = ((after.entryOf? write.input).map (·.key)).getD write.input
  new : write.new = ((after.entryOf? write.input).map (·.value)).getD write.requested

/-- Writing to a card does what was told when the write was tried, and the entry is there if it is on the copy. -/
structure EntryWrite.Repeats (write : EntryWrite) (now : Instant) (before after copy : Card) (changed : Bool) :
    Prop where
  old : (before.entryOf? write.input).map (·.value) = write.old
  wrote : before.setEntry now write.input write.requested = .ok (after, changed)
  found : (after.entryOf? write.input).isSome = (copy.entryOf? write.input).isSome
  entry : ∀ entry, after.entryOf? write.input = some entry → entry.key = write.key ∧ entry.value = write.new
  changes : changed = true ↔ after.content ≠ before.content

/-- A write that was tried can be repeated on every copy of the card. -/
theorem EntryWrite.Tells.repeats {write : EntryWrite} {now : Instant} {assignment : Assignment}
    {copy tried card : Card} (tells : write.Tells now assignment copy tried) (same : card.content = copy.content)
    (later : Instant) :
    ∃ after changed, write.Repeats later card after tried changed ∧ after.content = tried.content := by
  obtain ⟨changed, wrote⟩ := tells.tried
  obtain ⟨after, wroteToo, kept⟩ := Card.setEntry_copy same wrote later
  have read := Card.entryOf?_copy kept write.input
  obtain ⟨added, reports⟩ := Card.setEntry_reports wroteToo
  refine ⟨after, changed, ⟨?_, wroteToo, by rw [read], ?_, ?_⟩, kept⟩
  · rw [tells.old, Card.entryOf?_copy same]
  · intro entry there
    rw [read] at there
    rw [tells.key, tells.new, there]
    exact ⟨rfl, rfl⟩
  · exact ⟨fun told => (reports.loud told).1, reports.changed_of_content⟩

/-- Assignments that were tried one after the other on a copy are written one after the other to a card. The last
argument tells whether one of the writes changed the card. -/
inductive EditRoll.Replays (now later : Instant) :
    Card → Card → List Assignment → List EntryWrite → Card → Card → Bool → Prop where
  | done (copy card : Card) : Replays now later copy card [] [] copy card false
  | write {copy tried lastTried card after last : Card} {assignment : Assignment} {assignments : List Assignment}
      {write : EntryWrite} {writes : List EntryWrite} {changed more : Bool}
      (tells : write.Tells now assignment copy tried) (repeats : write.Repeats later card after tried changed)
      (replays : Replays now later tried after assignments writes lastTried last more) :
      Replays now later copy card (assignment :: assignments) (write :: writes) lastTried last (changed || more)

namespace EditRoll

variable {now later : Instant} {copy card last lastTried : Card} {assignment : Assignment}
  {assignments : List Assignment} {writes : List EntryWrite} {changed : Bool} {before roll : EditRoll}
  {faces rest : Faces}

theorem amount_ok {value : List Char} {amount : Int × Option String}
    (done : EditRoll.amount value before faces = ((.ok amount, roll), rest)) :
    roll = before ∧ ∀ number, readWord? value = some number → amount.1 = number := by
  have kept : Keeps (· = before) (EditRoll.amount value) := amount_keeps value
  refine ⟨kept.after rfl done, fun number read => ?_⟩
  unfold EditRoll.amount at done
  rw [read] at done
  cases done
  rfl

theorem write_ok {input : String} {value : Int}
    (done : EditRoll.write now copy input value before faces = ((.ok last, roll), rest)) :
    roll = before ∧ ∃ changed, copy.setEntry now input value = .ok (last, changed) := by
  unfold EditRoll.write at done
  cases wrote : copy.setEntry now input value with
  | error fault =>
      rw [wrote] at done
      cases done
  | ok result =>
      rw [wrote] at done
      cases done
      exact ⟨rfl, _, rfl⟩

/-- An assignment that is tried puts one write on the list. -/
theorem preview_tells (done : preview now copy assignment before faces = ((.ok last, roll), rest)) :
    ∃ write, roll = { before with writes := before.writes ++ [write] } ∧ write.Tells now assignment copy last := by
  obtain ⟨⟨amount, shown⟩, middle, left, counted, done⟩ := bind_ok done
  obtain ⟨same, number⟩ := amount_ok counted
  cases same
  obtain ⟨written, between, _, wrote, finished⟩ := bind_ok done
  obtain ⟨same, tried⟩ := write_ok wrote
  cases same
  obtain ⟨_, _, _, stored, ended⟩ := bind_ok finished
  cases stored
  cases ended
  exact ⟨_, rfl, ⟨rfl, rfl, ⟨amount, number, rfl⟩, tried, rfl, rfl⟩⟩

/-- All assignments that were tried can be written to every copy of the card. The induction is on the
assignments. -/
theorem previews_replay (done : assignments.foldlM (preview now) copy before faces = ((.ok lastTried, roll), rest))
    (same : card.content = copy.content) (later : Instant) :
    ∃ writes last changed, roll = { before with writes := before.writes ++ writes } ∧
      Replays now later copy card assignments writes lastTried last changed ∧ last.content = lastTried.content := by
  induction assignments generalizing copy card before faces with
  | nil =>
      cases done
      exact ⟨[], card, false, by rw [List.append_nil], .done _ _, same⟩
  | cons assignment assignments inductionHypothesis =>
      rw [List.foldlM_cons] at done
      obtain ⟨tried, middle, left, first, done⟩ := bind_ok done
      obtain ⟨write, rfl, tells⟩ := preview_tells first
      obtain ⟨after, changed, repeats, kept⟩ := tells.repeats same later
      obtain ⟨writes, last, more, rfl, replays, equal⟩ := inductionHypothesis done kept
      exact ⟨write :: writes, last, changed || more, by rw [List.append_assoc, List.singleton_append],
        .write tells repeats replays, equal⟩

/-- Writing all values to a card is the replay. The induction is on the replay. -/
theorem Replays.writeAll (replays : Replays now later copy card assignments writes lastTried last changed) :
    writeAll later writes card = .ok (last, changed) := by
  suffices all : ∀ told, writes.foldlM (fun (result : Card × Bool) write => do
      let wrote ← result.1.setEntry later write.input write.requested
      return (wrote.1, result.2 || wrote.2)) (card, told) = (.ok (last, told || changed) : Except Fault _) by
    exact (all false).trans (by rw [Bool.false_or])
  induction replays with
  | done copy card =>
      intro told
      rw [Bool.or_false]
      rfl
  | write tells repeats replays inductionHypothesis =>
      intro told
      rw [List.foldlM_cons]
      dsimp only
      rw [repeats.wrote]
      exact (inductionHypothesis _).trans (by rw [Bool.or_assoc])

/-- A command that assigns values to the card of its sender tried them on it, and all that it has to write comes
from there. -/
theorem roll_previews {scene : Scene} {source : String}
    (done : EditRoll.roll scene now (.new source) faces = ((.ok (), roll), rest))
    (asked : roll.edit = some (.values assignments)) {name : String} (held : roll.card = some name) :
    ∃ card start tried last left, scene.card? = some card ∧ card.name = name ∧ start.writes = [] ∧
      assignments.foldlM (preview now) card start faces = ((.ok last, tried), left) ∧
      tried.writes = roll.writes := by
  unfold EditRoll.roll at done
  cases there : scene.card? with
  | none =>
      rw [there] at done
      have missing : none = roll.card := congrArg (·.1.2.card) done
      rw [← missing] at held
      cases held
  | some card =>
      rw [there] at done
      obtain ⟨_, _, _, named, done⟩ := bind_ok done
      cases named
      obtain ⟨_, _, _, looked, done⟩ := bind_ok done
      cases looked
      have settled : IsSettled fun roll =>
          roll.edit = Edit.parse? source.toList ∧ roll.card = some card.name :=
        fun _ _ _ both => both
      have kept := (rollEdit_keeps settled scene now card _).after ⟨rfl, rfl⟩ done
      rw [asked, held, Option.some.injEq] at kept
      obtain ⟨asks, rfl⟩ := kept
      have command : (EditRoll.new source).edit = some (.values assignments) := asks.symm
      dsimp only at done
      rw [command] at done
      obtain ⟨last, tried, left, previewed, done⟩ := bind_ok done
      obtain ⟨_, _, _, looked, done⟩ := bind_ok done
      cases looked
      exact ⟨card, _, tried, last, left, rfl, rfl, rfl, previewed, congrArg (·.1.2.writes) done⟩

end EditRoll

end Tabletop
