/-
This file proves what calls that follow one another keep of a card.

Calls on a new card never fail, because it has no spell slots and no call adds any.
-/

import Tabletop.Proofs.Card.Rules
import Tabletop.Proofs.Card.Setters

namespace Tabletop

namespace Card

/-- Cards with the same numbers. They may differ in their cores and growth marks. -/
inductive SameNumbers : Card → Card → Prop where
  | core (card : Card) (core : CardCore) : SameNumbers card (card.setCore core)
  | marks (card : CocCard) (core : CardCore) (marks : Std.ExtTreeSet String) :
      SameNumbers (.coc card) (.coc { card with core := core, growthMarks := marks })

theorem SameNumbers.refl (card : Card) : SameNumbers card card := by
  have same := SameNumbers.core card card.core
  rwa [setCore_same] at same

theorem markGrowth_sameNumbers (card : Card) (now : Instant) (key : String) :
    SameNumbers card (card.markGrowth now key).1 := by
  cases card with
  | general card => exact .refl _
  | dnd card => exact .refl _
  | coc card =>
      unfold markGrowth CocCard.markGrowth
      dsimp only
      split
      · exact .refl _
      · exact .marks card _ _

theorem clearGrowth_sameNumbers (card : Card) (now : Instant) (keys : List String) :
    SameNumbers card (card.clearGrowth now keys).1 := by
  cases card with
  | general card => exact .refl _
  | dnd card => exact .refl _
  | coc card =>
      have cleared : ∃ core marks, (card.clearGrowth now keys).1 =
          { card with core := core, growthMarks := marks } := by
        apply List.foldlRecOn (motive := fun (result : CocCard × Bool) =>
          ∃ core marks, result.1 = { card with core := core, growthMarks := marks })
        · exact ⟨card.core, card.growthMarks, rfl⟩
        · rintro ⟨_, changed⟩ ⟨core, marks, rfl⟩ key _
          dsimp only [CocCard.clearMark]
          split
          · exact ⟨_, _, rfl⟩
          · exact ⟨core, marks, rfl⟩
      obtain ⟨core, marks, same⟩ := cleared
      change SameNumbers (.coc card) (.coc (card.clearGrowth now keys).1)
      rw [same]
      exact .marks card core marks

/-- Only the calls that write a number change numbers. -/
theorem write_sameNumbers {card after : Card} {now : Instant} {call : CardWrite} {changed : Bool}
    (written : card.write now call = .ok (after, changed))
    (other : ∀ input value, call ≠ .entry input value) : SameNumbers card after := by
  cases call with
  | entry input value => exact absurd rfl (other input value)
  | ability name expression =>
      cases written
      exact .core card _
  | mark key =>
      have same := card.markGrowth_sameNumbers now key
      rwa [Except.ok.inj written] at same
  | clear keys =>
      have same := card.clearGrowth_sameNumbers now keys
      rwa [Except.ok.inj written] at same

end Card

/-- What writing a number makes of a card of each game system. -/
inductive Card.EntryWritten (now : Instant) (input : String) (value : Int) : Card → Card → Prop where
  | general (card : GeneralCard) :
      EntryWritten now input value (.general card) (.general (card.setEntry now input value).1)
  | coc (card : CocCard) :
      EntryWritten now input value (.coc card) (.coc (card.setEntry now input value).1)
  | dnd {card after : DndCard} {changed : Bool}
      (done : card.setEntry now input value = .ok (after, changed)) :
      EntryWritten now input value (.dnd card) (.dnd after)

theorem Card.write_entry {card after : Card} {now : Instant} {input : String} {value : Int}
    {changed : Bool} (written : card.write now (.entry input value) = .ok (after, changed)) :
    EntryWritten now input value card after := by
  cases card with
  | general card =>
      obtain rfl := congrArg Prod.fst (Except.ok.inj written)
      exact .general card
  | coc card =>
      obtain rfl := congrArg Prod.fst (Except.ok.inj written)
      exact .coc card
  | dnd card =>
      obtain ⟨inner, done, same⟩ := map_eq_ok.1 written
      obtain rfl := congrArg Prod.fst same
      exact .dnd done

/-- Calls do not change the game system of a card. -/
theorem Card.write_kind {card after : Card} {now : Instant} {call : CardWrite} {changed : Bool}
    (written : card.write now call = .ok (after, changed)) : after.kind = card.kind := by
  by_cases entry : ∃ input value, call = .entry input value
  · obtain ⟨input, value, rfl⟩ := entry
    cases write_entry written with
    | general card => rfl
    | coc card => rfl
    | dnd done => rfl
  · cases write_sameNumbers written fun input value is => entry ⟨input, value, is⟩ with
    | core card core => cases card <;> rfl
    | marks card core marks => rfl

/-! Spell slots -/

namespace DndCard

/-- Writing a number adds no level of spell slots and leaves their maxima as they are. -/
theorem EntryRule.slots {card : DndCard} {now : Instant} {value : Int} {key : String}
    {result : Except Fault (DndCard × Bool)} (rule : EntryRule card now value key result)
    {after : DndCard} {changed : Bool} (done : result = .ok (after, changed)) {name : String}
    {slot : SpellSlot} (kept : after.spellSlots[name]? = some slot) :
    ∃ before, card.spellSlots[name]? = some before ∧ slot.max = before.max := by
  cases rule with
  | @slot _ _ given names stood =>
      unfold setSlot at done
      split at done
      · cases done
      · cases done
        dsimp only at kept
        rw [Table.get_insert] at kept
        split at kept
        · next same =>
          cases kept
          exact ⟨given, same ▸ stood, rfl⟩
        · exact ⟨slot, kept, rfl⟩
  | saving names =>
      unfold setSaving at done
      dsimp only at done
      split at done
      · cases done
        exact ⟨slot, kept, rfl⟩
      · cases done
        exact ⟨slot, kept, rfl⟩
  | _ =>
      cases done
      exact ⟨slot, kept, rfl⟩

end DndCard

namespace Card

theorem new_slotsOpen (kind : CardKind) (name : String) (now : Instant) :
    (new kind name now).SlotsOpen := by
  intro dnd same level slot kept
  cases kind with
  | dnd =>
      cases same
      exact absurd kept (by simp [DndCard.new])
  | general => cases same
  | coc => cases same

theorem write_slotsOpen {card after : Card} {now : Instant} {call : CardWrite} {changed : Bool}
    (room : card.SlotsOpen) (written : card.write now call = .ok (after, changed)) :
    after.SlotsOpen := by
  by_cases entry : ∃ input value, call = .entry input value
  · obtain ⟨input, value, rfl⟩ := entry
    intro dnd is level slot kept
    cases write_entry written with
    | general card => cases is
    | coc card => cases is
    | dnd done =>
        cases is
        obtain ⟨before, stood, same⟩ := (DndCard.setEntry_rule _ now input value).slots done kept
        exact same ▸ room _ rfl level before stood
  · have same := write_sameNumbers written fun input value is => entry ⟨input, value, is⟩
    intro dnd is level slot kept
    cases same with
    | core card core =>
        cases card with
        | dnd card =>
            cases is
            exact room card rfl level slot kept
        | general card => cases is
        | coc card => cases is
    | marks card core marks => cases is

/-- Makes calls one after the other, each at its own time. -/
def writeEach (card : Card) (calls : List (Instant × CardWrite)) : Except Fault Card :=
  calls.foldlM (fun card (now, call) => (card.write now call).map (·.1)) card

theorem writeEach_append_singleton {card last : Card} {calls : List (Instant × CardWrite)}
    {timed : Instant × CardWrite} :
    card.writeEach (calls ++ [timed]) = .ok last ↔
      ∃ middle changed, card.writeEach calls = .ok middle ∧
        middle.write timed.1 timed.2 = .ok (last, changed) := by
  rw [writeEach, List.foldlM_append, bind_eq_ok]
  constructor
  · rintro ⟨middle, before, step⟩
    rw [List.foldlM_cons, bind_eq_ok] at step
    obtain ⟨after, mapped, same⟩ := step
    obtain rfl := Except.ok.inj same
    obtain ⟨⟨card, changed⟩, written, rfl⟩ := map_eq_ok.1 mapped
    exact ⟨middle, changed, before, written⟩
  · rintro ⟨middle, changed, before, written⟩
    refine ⟨middle, before, ?_⟩
    rw [List.foldlM_cons, bind_eq_ok]
    exact ⟨last, map_eq_ok.2 ⟨_, written, rfl⟩, rfl⟩

theorem writeEach_kind {card last : Card} {calls : List (Instant × CardWrite)}
    (done : card.writeEach calls = .ok last) : last.kind = card.kind := by
  refine foldlM_keeps (fun after => after.kind = card.kind) ?_ rfl done
  intro before timed after same mapped
  obtain ⟨_, written, rfl⟩ := map_eq_ok.1 mapped
  exact (write_kind written).trans same

/-- What each call keeps is kept by all calls together, and none of them fails. -/
theorem writeEach_total {holds : Card → Prop}
    (step : ∀ card now call, holds card →
      ∃ after changed, card.write now call = .ok (after, changed) ∧ holds after)
    (calls : List (Instant × CardWrite)) {card : Card} (held : holds card) :
    ∃ last, card.writeEach calls = .ok last ∧ holds last := by
  induction calls generalizing card with
  | nil => exact ⟨card, rfl, held⟩
  | cons timed calls inductionHypothesis =>
      obtain ⟨after, changed, written, kept⟩ := step card timed.1 timed.2 held
      obtain ⟨last, done, holds⟩ := inductionHypothesis kept
      refine ⟨last, ?_, holds⟩
      rw [writeEach, List.foldlM_cons, bind_eq_ok]
      exact ⟨after, map_eq_ok.2 ⟨_, written, rfl⟩, done⟩

end Card

end Tabletop
