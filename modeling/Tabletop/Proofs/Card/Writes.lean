/-
This file proves which changes of a card are recorded, over all writes that may follow one another.

Each write records what it changed under the name of the card. Death saving throws are stored without
a record.
-/

import Tabletop.Proofs.Card.Setters

namespace Tabletop

/-- Changes were added to the record of a core, and each of them names the card. -/
structure CardCore.Logs (before after : CardCore) (added : List CardChange) : Prop where
  name : after.name = before.name
  record : after.changes = before.changes ++ added
  named : ∀ change ∈ added, change.cardName = before.name

namespace CardCore

variable {first middle last : CardCore} {added more : List CardChange}

theorem Logs.still (core : CardCore) : core.Logs core [] where
  name := rfl
  record := by simp
  named := by simp

theorem Logs.trans (left : first.Logs middle added) (right : middle.Logs last more) :
    first.Logs last (added ++ more) where
  name := right.name.trans left.name
  record := by rw [right.record, left.record, List.append_assoc]
  named change member := by
    rcases List.mem_append.1 member with member | member
    · exact left.named change member
    · exact (right.named change member).trans left.name

theorem push_logs (core : CardCore) (now : Instant) (key : String) (value : ChangedValue) :
    core.Logs (core.push now key value) [⟨core.name, key, value⟩] where
  name := rfl
  record := rfl
  named := by simp

theorem record_logs (core : CardCore) (now : Instant) (key : String) (old : Option Int) (new : Int) :
    ∃ added, core.Logs (core.record now key old new) added := by
  rw [record]
  split
  · exact ⟨[], .still core⟩
  · exact ⟨_, core.push_logs now key _⟩

theorem setAbility_logs (core : CardCore) (now : Instant) (name expression : String) :
    ∃ added, core.Logs (core.setAbility now name expression).1 added := by
  rw [setAbility]
  split
  · exact ⟨[], .still core⟩
  · have pushed := push_logs { core with
      abilities := core.abilities.insert (core.abilityKey name) expression } now
    exact ⟨_, (pushed _ _).name, (pushed _ _).record, (pushed _ _).named⟩

end CardCore

/-- A card keeps its name, and each change that was added to its record names it. -/
def Card.Logs (before after : Card) : Prop :=
  ∃ added, before.core.Logs after.core added

theorem Card.Logs.trans {first middle last : Card} (left : first.Logs middle)
    (right : middle.Logs last) : first.Logs last := by
  obtain ⟨added, before⟩ := left
  obtain ⟨more, after⟩ := right
  exact ⟨added ++ more, before.trans after⟩

namespace CocCard

theorem put_logs (card : CocCard) (now : Instant) (part : CocPart) (key : String) (value : Int) :
    (Card.coc card).Logs (.coc (card.put now part key value).1) :=
  card.core.record_logs now key _ value

theorem setMythos_logs (card : CocCard) (now : Instant) (value : Int) :
    (Card.coc card).Logs (.coc (card.setMythos now value).1) := by
  have first := card.put_logs now .skills mythos (bounded (some 99) value)
  rw [setMythos]
  dsimp only
  split
  · split
    · exact first.trans (put_logs _ _ .basic sanity _)
    · exact first
  · exact first

theorem EntryRule.logs {card : CocCard} {now : Instant} {value : Int} {key : String}
    {result : CocCard × Bool} (rule : EntryRule card now value key result) :
    (Card.coc card).Logs (.coc result.1) := by
  cases rule with
  | prop prop => exact put_logs _ _ _ _ _
  | hitPoints => exact put_logs _ _ .basic CocCard.hitPoints _
  | magicPoints => exact put_logs _ _ .basic CocCard.magicPoints _
  | sanity => exact put_logs _ _ .basic CocCard.sanity _
  | mythos => exact setMythos_logs _ _ _
  | luck => exact put_logs _ _ _ _ _
  | skill notProp notBasic notMythos => exact put_logs _ _ _ _ _

theorem markGrowth_logs (card : CocCard) (now : Instant) (key : String) :
    (Card.coc card).Logs (.coc (card.markGrowth now key).1) := by
  rw [markGrowth]
  split
  · exact ⟨[], .still _⟩
  · exact ⟨_, card.core.push_logs now key _⟩

theorem clearMark_logs (card : CocCard) (now : Instant) (key : String) :
    (Card.coc card).Logs (.coc (card.clearMark now key).1) := by
  rw [clearMark]
  split
  · exact ⟨_, card.core.push_logs now key _⟩
  · exact ⟨[], .still _⟩

theorem clearGrowth_logs (card : CocCard) (now : Instant) (keys : List String) :
    (Card.coc card).Logs (.coc (card.clearGrowth now keys).1) := by
  apply List.foldlRecOn (motive := fun (result : CocCard × Bool) =>
    (Card.coc card).Logs (.coc result.1))
  · exact ⟨[], .still _⟩
  · intro result logs key _
    exact logs.trans (result.1.clearMark_logs now key)

end CocCard

namespace DndCard

theorem put_logs (card : DndCard) (now : Instant) (part : DndPart) (key : String) (value : Int) :
    (Card.dnd card).Logs (.dnd (card.put now part key value).1) :=
  card.core.record_logs now key _ value

theorem setSaving_logs (card : DndCard) (now : Instant) (key prop : String) (proficient : Bool) :
    (Card.dnd card).Logs (.dnd (card.setSaving now key prop proficient).1) := by
  rw [setSaving]
  dsimp only
  split
  · exact ⟨[], .still _⟩
  · exact card.core.record_logs now key _ _

theorem setSlot_logs {card after : DndCard} {now : Instant} {key slotLevel : String}
    {slot : SpellSlot} {value : Int} {changed : Bool}
    (written : card.setSlot now key slotLevel slot value = .ok (after, changed)) :
    (Card.dnd card).Logs (.dnd after) := by
  rw [setSlot] at written
  dsimp only at written
  split at written
  · cases written
  · cases written
    exact card.core.record_logs now key _ _

theorem EntryRule.logs {card after : DndCard} {now : Instant} {value : Int} {key : String}
    {result : Except Fault (DndCard × Bool)} {changed : Bool}
    (rule : EntryRule card now value key result) (written : result = .ok (after, changed)) :
    (Card.dnd card).Logs (.dnd after) := by
  cases rule with
  | prop prop =>
      cases written
      exact put_logs _ _ _ _ _
  | skill skill =>
      cases written
      exact put_logs _ _ _ _ _
  | @saving _ prop names =>
      have logs := card.setSaving_logs now key prop (0 < value)
      rwa [Except.ok.inj written] at logs
  | hitPoints =>
      cases written
      exact put_logs _ _ .basic DndCard.hitPoints _
  | basic basic =>
      cases written
      exact put_logs _ _ _ _ _
  | slot names kept => exact setSlot_logs written
  | item notProp notSkill notHitPoints notBasic =>
      cases written
      exact put_logs _ _ .items _ _

end DndCard

namespace Card

/-- Every change that a call records names the card. -/
theorem write_logs {card after : Card} {now : Instant} {call : CardWrite} {changed : Bool}
    (written : card.write now call = .ok (after, changed)) : card.Logs after := by
  cases call with
  | entry input value =>
      cases card with
      | general card =>
          cases written
          exact card.core.record_logs now _ _ value
      | coc card =>
          cases written
          exact (card.setEntry_rule now input value).logs
      | dnd card =>
          obtain ⟨⟨inner, told⟩, done, same⟩ := map_eq_ok.1 written
          cases same
          exact (DndCard.setEntry_rule _ now input value).logs done
  | ability name expression =>
      cases written
      obtain ⟨added, logs⟩ := card.core.setAbility_logs now name expression
      refine ⟨added, ?_⟩
      change card.core.Logs (card.setCore (card.core.setAbility now name expression).1).core added
      rwa [setCore_core]
  | mark key =>
      cases card with
      | coc card =>
          cases written
          exact card.markGrowth_logs now key
      | general card =>
          cases written
          exact ⟨[], .still _⟩
      | dnd card =>
          cases written
          exact ⟨[], .still _⟩
  | clear keys =>
      cases card with
      | coc card =>
          cases written
          exact card.clearGrowth_logs now keys
      | general card =>
          cases written
          exact ⟨[], .still _⟩
      | dnd card =>
          cases written
          exact ⟨[], .still _⟩

/-- The second card comes from the first one by calls that write to it, with death saving throws in
between. -/
inductive Writes (now : Instant) (first : Card) : Card → Prop where
  | start : Writes now first first
  | call {middle last : Card} {changed : Bool} (before : Writes now first middle) (call : CardWrite)
      (written : middle.write now call = .ok (last, changed)) : Writes now first last
  | saves {card : DndCard} (before : Writes now first (.dnd card)) (saving : DeathSaving) :
      Writes now first (.dnd (card.setDeathSaving now saving))

/-- What is stored of a card besides its death saving throws. -/
def besidesSaves (card : Card) : Card :=
  match card.content with
  | .dnd stored => .dnd { stored with deathSaving := ⟨0, 0⟩ }
  | stored => stored

/-- Writes that record nothing leave what is stored besides the death saving throws as it was. What
they record names the card. -/
structure Announces (before after : Card) (added : List CardChange) : Prop where
  logs : before.core.Logs after.core added
  quiet : added = [] → after.besidesSaves = before.besidesSaves

theorem Announces.still (card : Card) : Announces card card [] :=
  ⟨.still _, fun _ => rfl⟩

theorem Announces.trans {first middle last : Card} {added more : List CardChange}
    (left : Announces first middle added) (right : Announces middle last more) :
    Announces first last (added ++ more) where
  logs := left.logs.trans right.logs
  quiet none := by
    obtain ⟨before, after⟩ := List.append_eq_nil_iff.1 none
    exact (right.quiet after).trans (left.quiet before)

/-- A call that records nothing leaves the card alone. -/
theorem write_announces {card after : Card} {now : Instant} {call : CardWrite} {changed : Bool}
    (written : card.write now call = .ok (after, changed)) : ∃ added, Announces card after added := by
  obtain ⟨added, logs⟩ := write_logs written
  obtain ⟨recorded, told⟩ := write_reports written
  have same : added = recorded := List.append_cancel_left (logs.record.symm.trans told.record)
  refine ⟨added, logs, fun none => ?_⟩
  cases changed with
  | false => rw [(told.quiet rfl).1]
  | true => exact absurd (same.symm.trans none) (told.loud rfl).2

/-- Death saving throws are stored without a record. -/
theorem setDeathSaving_announces (card : DndCard) (now : Instant) (saving : DeathSaving) :
    Announces (.dnd card) (.dnd (card.setDeathSaving now saving)) [] := by
  rw [DndCard.setDeathSaving]
  split
  · exact .still _
  · exact ⟨⟨rfl, (List.append_nil _).symm, by simp⟩, fun _ => rfl⟩

/-- However many writes follow one another, they record something if they change what is stored
besides the death saving throws. The induction is on the writes. -/
theorem Writes.announces {now : Instant} {first last : Card} (writes : Writes now first last) :
    ∃ added, Announces first last added := by
  induction writes with
  | start => exact ⟨[], .still first⟩
  | call before call written inductionHypothesis =>
      obtain ⟨added, left⟩ := inductionHypothesis
      obtain ⟨more, right⟩ := write_announces written
      exact ⟨added ++ more, left.trans right⟩
  | saves before saving inductionHypothesis =>
      obtain ⟨added, left⟩ := inductionHypothesis
      exact ⟨added ++ [], left.trans (setDeathSaving_announces _ now saving)⟩

end Card

end Tabletop
