/-
This file proves that the writes to cards report what they did.
-/

import Tabletop.Proofs.Card.Content
import Tabletop.Proofs.Card.Rules

namespace Tabletop

namespace CocCard

/-- Replacing a part leaves a card alone exactly if the part is the same. -/
theorem setPart_eq_iff (card : CocCard) (part : CocPart) (values : Values) :
    card.setPart part values = card ↔ values = card.part part := by
  cases part <;> cases card <;> simp [setPart, CocCard.part]

/-- Writing a number into a part reports whether the number changed. -/
theorem put_reports (card : CocCard) (now : Instant) (part : CocPart) (key : String) (value : Int) :
    ∃ added, Card.Reports (.coc card) (.coc (card.put now part key value).1)
      (card.put now part key value).2 added := by
  refine Card.Reports.ofRecord rfl ?_
  have others : (Card.coc (card.put now part key value).1).setCore card.core =
      Card.coc (card.setPart part ((card.part part).insert key value)) := by
    cases part <;> rfl
  change (Card.coc (card.put now part key value).1).setCore card.core = Card.coc card ↔ _
  rw [others, Card.coc.injEq, setPart_eq_iff]
  exact Table.insert_eq_iff _ _ _

/-- The mythos and the sanity that it limits stand in two parts, so the second write never undoes
the first one. -/
theorem setMythos_reports (card : CocCard) (now : Instant) (value : Int) :
    ∃ added, Card.Reports (.coc card) (.coc (card.setMythos now value).1)
      (card.setMythos now value).2 added := by
  obtain ⟨first, told⟩ := card.put_reports now .skills mythos (bounded (some 99) value)
  rw [setMythos]
  dsimp only
  split
  · next current _ =>
    split
    · obtain ⟨more, again⟩ := put_reports (card.put now .skills mythos (bounded (some 99) value)).1
        now .basic sanity (bounded (some (card.put now .skills mythos
          (bounded (some 99) value)).1.maxSanity) current)
      refine ⟨first ++ more, told.append again ?_⟩
      intro changed same
      have skills := congrArg CocCard.skills (Card.coc.inj (Card.setCore_of_content same))
      exact of_decide_eq_true changed ((Table.insert_eq_iff _ _ _).1 skills)
    · exact ⟨first, told⟩
  · exact ⟨first, told⟩

/-- Each rule for writing a number reports what it did. -/
theorem EntryRule.reports {card : CocCard} {now : Instant} {value : Int} {key : String}
    {result : CocCard × Bool} (rule : EntryRule card now value key result) :
    ∃ added, Card.Reports (.coc card) (.coc result.1) result.2 added := by
  cases rule with
  | prop prop => exact put_reports _ _ _ _ _
  | hitPoints => exact put_reports _ _ .basic CocCard.hitPoints _
  | magicPoints => exact put_reports _ _ .basic CocCard.magicPoints _
  | sanity => exact put_reports _ _ .basic CocCard.sanity _
  | mythos => exact setMythos_reports _ _ _
  | luck => exact put_reports _ _ _ _ _
  | skill notProp notBasic notMythos => exact put_reports _ _ _ _ _

theorem setEntry_reports (card : CocCard) (now : Instant) (input : String) (value : Int) :
    ∃ added, Card.Reports (.coc card) (.coc (card.setEntry now input value).1)
      (card.setEntry now input value).2 added :=
  (card.setEntry_rule now input value).reports

/-! Growth marks -/

theorem markGrowth_reports (card : CocCard) (now : Instant) (key : String) :
    ∃ added, Card.Reports (.coc card) (.coc (card.markGrowth now key).1)
      (card.markGrowth now key).2 added := by
  rw [markGrowth]
  split
  · exact ⟨[], .still _⟩
  · next absent =>
    refine ⟨_, .ofChange rfl rfl ?_ (by intro _ _ equal; cases equal)⟩
    intro same
    have marks := congrArg CocCard.growthMarks (Card.coc.inj (Card.setCore_of_content same))
    apply absent
    rw [← marks]
    exact Std.ExtTreeSet.contains_insert_self

theorem clearMark_reports (card : CocCard) (now : Instant) (key : String) :
    ∃ added, Card.Reports (.coc card) (.coc (card.clearMark now key).1)
      (card.clearMark now key).2 added := by
  rw [clearMark]
  split
  · next marked =>
    refine ⟨_, .ofChange rfl rfl ?_ (by intro _ _ equal; cases equal)⟩
    intro same
    have marks := congrArg CocCard.growthMarks (Card.coc.inj (Card.setCore_of_content same))
    change card.growthMarks.erase key = card.growthMarks at marks
    rw [← marks, Std.ExtTreeSet.contains_erase] at marked
    simp at marked
  · exact ⟨[], .still _⟩

/-- Marks were only taken away, and if a change is told then there is one that was taken. -/
structure Unmarks (before after : CocCard) (changed : Bool) : Prop where
  fewer : ∀ key, after.growthMarks.contains key = true → before.growthMarks.contains key = true
  taken : changed = true →
    ∃ key, before.growthMarks.contains key = true ∧ after.growthMarks.contains key = false

theorem Unmarks.clearMark {before after : CocCard} {changed : Bool}
    (unmarks : Unmarks before after changed) (now : Instant) (key : String) :
    Unmarks before (after.clearMark now key).1 (changed || (after.clearMark now key).2) := by
  rw [CocCard.clearMark]
  split
  · next marked =>
    constructor
    · intro other kept
      change (after.growthMarks.erase key).contains other = true at kept
      rw [Std.ExtTreeSet.contains_erase, Bool.and_eq_true] at kept
      exact unmarks.fewer other kept.2
    · intro _
      refine ⟨key, unmarks.fewer key marked, ?_⟩
      change (after.growthMarks.erase key).contains key = false
      rw [Std.ExtTreeSet.contains_erase]
      simp
  · simpa using unmarks

theorem Unmarks.content_ne {before after : CocCard} (unmarks : Unmarks before after true) :
    (Card.coc after).content ≠ (Card.coc before).content := by
  intro same
  have marks := congrArg CocCard.growthMarks (Card.coc.inj (Card.setCore_of_content same))
  change after.growthMarks = before.growthMarks at marks
  obtain ⟨key, had, lacks⟩ := unmarks.taken rfl
  rw [marks, had] at lacks
  cases lacks

/-- Taking marks away one after the other reports whether there was one. The induction is on the
marks to be taken: each one that goes stays away. -/
theorem clearMarks_reports (now : Instant) (keys : List String) {before after : CocCard}
    {changed : Bool} (unmarks : Unmarks before after changed)
    (told : ∃ added, Card.Reports (.coc before) (.coc after) changed added) :
    let result := keys.foldl (fun (card, changed) key =>
      let (card, removed) := card.clearMark now key
      (card, changed || removed)) (after, changed)
    ∃ added, Card.Reports (.coc before) (.coc result.1) result.2 added := by
  induction keys generalizing after changed with
  | nil => exact told
  | cons key keys inductionHypothesis =>
    have next := unmarks.clearMark now key
    apply inductionHypothesis next
    obtain ⟨added, told⟩ := told
    obtain ⟨more, again⟩ := clearMark_reports after now key
    refine ⟨added ++ more, told.append again ?_⟩
    intro changed
    rw [changed, Bool.true_or] at next
    exact next.content_ne

theorem clearGrowth_reports (card : CocCard) (now : Instant) (keys : List String) :
    ∃ added, Card.Reports (.coc card) (.coc (card.clearGrowth now keys).1)
      (card.clearGrowth now keys).2 added :=
  clearMarks_reports now _ ⟨fun _ kept => kept, by simp⟩ ⟨[], .still _⟩

end CocCard

namespace DndCard

theorem setPart_eq_iff (card : DndCard) (part : DndPart) (values : Values) :
    card.setPart part values = card ↔ values = card.part part := by
  cases part <;> cases card <;> simp [setPart, DndCard.part]

theorem put_reports (card : DndCard) (now : Instant) (part : DndPart) (key : String) (value : Int) :
    ∃ added, Card.Reports (.dnd card) (.dnd (card.put now part key value).1)
      (card.put now part key value).2 added := by
  refine Card.Reports.ofRecord rfl ?_
  have others : (Card.dnd (card.put now part key value).1).setCore card.core =
      Card.dnd (card.setPart part ((card.part part).insert key value)) := by
    cases part <;> rfl
  change (Card.dnd (card.put now part key value).1).setCore card.core = Card.dnd card ↔ _
  rw [others, Card.dnd.injEq, setPart_eq_iff]
  exact Table.insert_eq_iff _ _ _

/-- A saving throw turns from trained to untrained or back, and reports the one as the opposite of
the other. -/
theorem setSaving_reports (card : DndCard) (now : Instant) (key prop : String) (proficient : Bool) :
    ∃ added, Card.Reports (.dnd card) (.dnd (card.setSaving now key prop proficient).1)
      (card.setSaving now key prop proficient).2 added := by
  rw [setSaving]
  dsimp only
  split
  · exact ⟨[], .still _⟩
  · next turns =>
    have moves : some (if card.savingProficiency.contains prop = true then (1 : Int) else 0) ≠
        some (1 - if card.savingProficiency.contains prop = true then 1 else 0) := by
      cases card.savingProficiency.contains prop <;> decide
    rw [CardCore.record, if_neg moves]
    refine ⟨_, .ofChange rfl rfl ?_ ?_⟩
    · intro same
      have trained := congrArg (fun dnd => dnd.savingProficiency.contains prop)
        (Card.dnd.inj (Card.setCore_of_content same))
      apply turns
      rw [← trained]
      cases proficient
      · change (card.savingProficiency.erase prop).contains prop = false
        rw [Std.ExtTreeSet.contains_erase]
        simp
      · exact Std.ExtTreeSet.contains_insert_self
    · intro _ _ equal
      cases equal
      exact moves

/-- Slots that are left are bounded before they are compared. -/
theorem setSlot_reports {card after : DndCard} {now : Instant} {key slotLevel : String}
    {slot : SpellSlot} {value : Int} {changed : Bool}
    (kept : card.spellSlots[slotLevel]? = some slot)
    (written : card.setSlot now key slotLevel slot value = .ok (after, changed)) :
    ∃ added, Card.Reports (.dnd card) (.dnd after) changed added := by
  rw [setSlot] at written
  dsimp only at written
  split at written
  · cases written
  · cases written
    have told : decide (slot.value ≠ max 0 (min value slot.max)) =
        decide (some slot.value ≠ some (max 0 (min value slot.max))) := by simp
    rw [told]
    refine Card.Reports.ofRecord rfl ?_
    change Card.dnd { card with spellSlots := _ } = Card.dnd card ↔ _
    rw [Card.dnd.injEq]
    constructor
    · intro same
      have slots := (Table.insert_eq_iff _ _ _).1 (congrArg DndCard.spellSlots same)
      rw [kept] at slots
      exact congrArg (Option.map SpellSlot.value) slots
    · intro same
      rw [← Option.some.inj same, (Table.insert_eq_iff _ _ _).2 kept]

/-- Each rule for writing a number reports what it did. -/
theorem EntryRule.reports {card after : DndCard} {now : Instant} {value : Int} {key : String}
    {result : Except Fault (DndCard × Bool)} {changed : Bool}
    (rule : EntryRule card now value key result) (written : result = .ok (after, changed)) :
    ∃ added, Card.Reports (.dnd card) (.dnd after) changed added := by
  cases rule with
  | prop prop =>
      cases written
      exact put_reports _ _ _ _ _
  | skill skill =>
      cases written
      exact put_reports _ _ _ _ _
  | @saving _ prop names =>
      have told := card.setSaving_reports now key prop (0 < value)
      rwa [Except.ok.inj written] at told
  | hitPoints =>
      cases written
      exact put_reports _ _ .basic DndCard.hitPoints _
  | basic basic =>
      cases written
      exact put_reports _ _ _ _ _
  | slot names kept => exact setSlot_reports kept written
  | item notProp notSkill notHitPoints notBasic =>
      cases written
      exact put_reports _ _ .items _ _

theorem setEntry_reports {card after : DndCard} {now : Instant} {input : String} {value : Int}
    {changed : Bool} (written : card.setEntry now input value = .ok (after, changed)) :
    ∃ added, Card.Reports (.dnd card) (.dnd after) changed added :=
  (card.setEntry_rule now input value).reports written

/-- Only a spell slot with a negative maximum stops a write. -/
theorem EntryRule.ok {card : DndCard} {now : Instant} {value : Int} {key : String}
    {result : Except Fault (DndCard × Bool)} (rule : EntryRule card now value key result)
    (room : ∀ (level : String) (slot : SpellSlot), card.spellSlots[level]? = some slot → 0 ≤ slot.max) :
    ∃ written, result = .ok written := by
  cases rule with
  | @slot _ level slot names kept =>
      rw [setSlot, if_neg (Int.not_lt.2 (room level slot kept))]
      exact ⟨_, rfl⟩
  | _ => exact ⟨_, rfl⟩

theorem setEntry_ok (card : DndCard) (now : Instant) (input : String) (value : Int)
    (room : ∀ (level : String) (slot : SpellSlot), card.spellSlots[level]? = some slot → 0 ≤ slot.max) :
    ∃ result, card.setEntry now input value = .ok result :=
  (card.setEntry_rule now input value).ok room

end DndCard

theorem GeneralCard.setEntry_reports (card : GeneralCard) (now : Instant) (input : String)
    (value : Int) :
    ∃ added, Card.Reports (.general card) (.general (card.setEntry now input value).1)
      (card.setEntry now input value).2 added := by
  refine Card.Reports.ofRecord rfl ?_
  change Card.general { card with skills := _ } = Card.general card ↔ _
  rw [Card.general.injEq]
  constructor
  · intro same
    exact (Table.insert_eq_iff _ _ _).1 (congrArg GeneralCard.skills same)
  · intro same
    rw [GeneralCard.setEntry, (Table.insert_eq_iff _ _ _).2 same]

namespace Card

theorem setAbility_reports (card : Card) (now : Instant) (name expression : String) :
    ∃ added, Reports card (card.setAbility now name expression).1
      (card.setAbility now name expression).2 added := by
  rw [setAbility, CardCore.setAbility]
  dsimp only
  split
  · refine ⟨[], ?_⟩
    rw [setCore_same]
    exact .still card
  · next other =>
    refine ⟨[⟨card.name, card.core.abilityKey name,
      .ability card.core.abilities[card.core.abilityKey name]? expression⟩], .ofChange ?_ ?_ ?_ ?_⟩
    · rw [setCore_core]
      rfl
    · rw [Card.name, setCore_core]
      rfl
    · intro same
      have abilities := congrArg (fun card => card.core.abilities) same
      simp only [content_core, setCore_core, CardCore.content, CardCore.push] at abilities
      exact other ((Table.insert_eq_iff _ _ _).1 abilities)
    · intro _ _ equal
      cases equal

end Card

/-- A call that writes to a card. -/
inductive CardWrite where
  | entry (input : String) (value : Int)
  | ability (name expression : String)
  | mark (key : String)
  | clear (keys : List String)
deriving DecidableEq, Repr

namespace Card

/-- Makes a call. It tells whether something changed. -/
def write (card : Card) (now : Instant) : CardWrite → Except Fault (Card × Bool)
  | .entry input value => card.setEntry now input value
  | .ability name expression => .ok (card.setAbility now name expression)
  | .mark key => .ok (card.markGrowth now key)
  | .clear keys => .ok (card.clearGrowth now keys)

theorem setEntry_reports {card after : Card} {now : Instant} {input : String} {value : Int}
    {changed : Bool} (written : card.setEntry now input value = .ok (after, changed)) :
    ∃ added, Reports card after changed added := by
  cases card with
  | general card =>
      cases written
      exact card.setEntry_reports now input value
  | coc card =>
      cases written
      exact card.setEntry_reports now input value
  | dnd card =>
      obtain ⟨⟨inner, told⟩, done, same⟩ := map_eq_ok.1 written
      cases same
      exact DndCard.setEntry_reports done

theorem markGrowth_reports (card : Card) (now : Instant) (key : String) :
    ∃ added, Reports card (card.markGrowth now key).1 (card.markGrowth now key).2 added := by
  cases card with
  | coc card => exact card.markGrowth_reports now key
  | general card => exact ⟨[], .still _⟩
  | dnd card => exact ⟨[], .still _⟩

theorem clearGrowth_reports (card : Card) (now : Instant) (keys : List String) :
    ∃ added, Reports card (card.clearGrowth now keys).1 (card.clearGrowth now keys).2 added := by
  cases card with
  | coc card => exact card.clearGrowth_reports now keys
  | general card => exact ⟨[], .still _⟩
  | dnd card => exact ⟨[], .still _⟩

/-- Every call reports what it did. -/
theorem write_reports {card after : Card} {now : Instant} {call : CardWrite} {changed : Bool}
    (written : card.write now call = .ok (after, changed)) :
    ∃ added, Reports card after changed added := by
  cases call with
  | entry input value => exact setEntry_reports written
  | ability name expression =>
      cases written
      exact setAbility_reports card now name expression
  | mark key =>
      have told := markGrowth_reports card now key
      rwa [Except.ok.inj written] at told
  | clear keys =>
      have told := clearGrowth_reports card now keys
      rwa [Except.ok.inj written] at told

/-- No spell slot of the card has a negative maximum. -/
def SlotsOpen (card : Card) : Prop :=
  ∀ dnd, card = .dnd dnd →
    ∀ (level : String) (slot : SpellSlot), dnd.spellSlots[level]? = some slot → 0 ≤ slot.max

/-- Only a spell slot with a negative maximum stops a call. -/
theorem write_ok {card : Card} (now : Instant) (call : CardWrite) (room : card.SlotsOpen) :
    ∃ after changed, card.write now call = .ok (after, changed) := by
  cases call with
  | ability name expression => exact ⟨_, _, rfl⟩
  | mark key => exact ⟨_, _, rfl⟩
  | clear keys => exact ⟨_, _, rfl⟩
  | entry input value =>
      cases card with
      | general card => exact ⟨_, _, rfl⟩
      | coc card => exact ⟨_, _, rfl⟩
      | dnd card =>
          obtain ⟨result, done⟩ := card.setEntry_ok now input value (room card rfl)
          exact ⟨.dnd result.1, result.2, map_eq_ok.2 ⟨result, done, rfl⟩⟩

/-- Every call tells exactly whether the stored content changed, which is exactly whether it added to
the record of changes. A call that tells of nothing leaves the whole card alone, and a change of an
entry that is added leads to another value. -/
theorem write_reportsExactly (card : Card) (now : Instant) (call : CardWrite)
    (room : card.SlotsOpen) :
    ∃ after changed added, card.write now call = .ok (after, changed) ∧
      after.core.changes = card.core.changes ++ added ∧
      (changed = true ↔ after.content ≠ card.content) ∧
      (changed = true ↔ added ≠ []) ∧
      (changed = false → after = card) ∧
      ∀ change ∈ added, ∀ old new, change.value = .entry old new → old ≠ some new := by
  obtain ⟨after, changed, written⟩ := write_ok now call room
  obtain ⟨added, told⟩ := write_reports written
  refine ⟨after, changed, added, written, told.record, ?_, ?_, fun quiet => (told.quiet quiet).1,
    told.moves⟩
  · exact ⟨fun loud => (told.loud loud).1, told.changed_of_content⟩
  · exact ⟨fun loud => (told.loud loud).2, told.changed_of_added⟩

/-- A caster with two of three slots of the first level. -/
def caster : Card :=
  .dnd { DndCard.new "Tav" .epoch with spellSlots := (∅ : Table SpellSlot).insert "1" ⟨2, 3⟩ }

theorem caster_slotsOpen : caster.SlotsOpen := by
  intro dnd same level slot kept
  cases same
  rw [Table.get_insert] at kept
  split at kept
  · cases kept
    decide
  · simp at kept

theorem write_reportsExactly_slot :
    caster.SlotsOpen ∧
    ∃ after changed added, caster.write .epoch (.entry "1环" 9) = .ok (after, changed) ∧
      after.core.changes = caster.core.changes ++ added ∧
      (changed = true ↔ after.content ≠ caster.content) ∧
      (changed = true ↔ added ≠ []) ∧
      (changed = false → after = caster) ∧
      ∀ change ∈ added, ∀ old new, change.value = .entry old new → old ≠ some new :=
  ⟨caster_slotsOpen, write_reportsExactly caster .epoch (.entry "1环" 9) caster_slotsOpen⟩

end Card

end Tabletop
