/-
This file proves that a number can be written to a card exactly if all bounds on its way are in order.

Most bounds are, whatever stands on the card. Those of spell slots are not if the card has a negative maximum.
-/

import Tabletop.Card.Format
import Tabletop.Proofs.Card.Places

namespace Tabletop

/-- A number that is brought between two bounds before it is kept at a place. -/
structure Clamp where
  place : Card.Place
  lower : Int
  upper : Int
  number : Int
deriving DecidableEq, Repr

namespace Clamp

/-- There are numbers between the bounds. -/
def InOrder (clamp : Clamp) : Prop :=
  clamp.lower ≤ clamp.upper

/-- The nearest number between the bounds. -/
def result (clamp : Clamp) : Int :=
  max clamp.lower (min clamp.number clamp.upper)

end Clamp

namespace CocCard

/-- The numbers that are brought between bounds when a number is written to a place. -/
def clamps (card : CocCard) (now : Instant) (value : Int) : Place → List Clamp
  | .hitPoints => card.maxHitPoints?.toList.map fun limit => ⟨.coc .hitPoints, 0, max limit 0, value⟩
  | .magicPoints => card.maxMagicPoints?.toList.map fun limit => ⟨.coc .magicPoints, 0, max limit 0, value⟩
  | .sanity => [⟨.coc .sanity, 0, max card.maxSanity 0, value⟩]
  | .mythos =>
    let written := (card.put now .skills mythos (bounded (some 99) value)).1
    ⟨.coc .mythos, 0, 99, value⟩ ::
      match written.basic[sanity]? with
      | some current =>
        if written.maxSanity < current then [⟨.coc .sanity, 0, max written.maxSanity 0, current⟩] else []
      | none => []
  | .part _ _ => []

/-- The number that is kept at a place. -/
def numberAt? (card : CocCard) : Place → Option Int
  | .hitPoints => card.basic[hitPoints]?
  | .magicPoints => card.basic[magicPoints]?
  | .sanity => card.basic[sanity]?
  | .mythos => card.skills[mythos]?
  | .part part key => (card.part part)[key]?

/-- The mythos has constant bounds. Sanity is brought between its own if there is too much of it then. -/
theorem mem_clamps_mythos {card written : CocCard} {now : Instant} {value : Int} {clamp : Clamp}
    (wrote : (card.put now .skills mythos (bounded (some 99) value)).1 = written)
    (member : clamp ∈ card.clamps now value .mythos) :
    clamp = ⟨.coc .mythos, 0, 99, value⟩ ∨
      ∃ current, card.basic[sanity]? = some current ∧ written.maxSanity < current ∧
        clamp = ⟨.coc .sanity, 0, max written.maxSanity 0, current⟩ := by
  subst wrote
  rcases List.mem_cons.1 member with same | member
  · exact .inl same
  · split at member
    · next current stands =>
      split at member
      · next tooMuch => exact .inr ⟨current, stands, tooMuch, List.mem_singleton.1 member⟩
      · cases member
    · cases member

/-- Upper bounds that could be negative are raised to zero. -/
theorem clamps_inOrder (card : CocCard) (now : Instant) (value : Int) (place : Place) :
    ∀ clamp ∈ card.clamps now value place, clamp.InOrder := by
  have raised (limit : Int) : 0 ≤ max limit 0 := Int.le_max_right limit 0
  intro clamp member
  cases place with
  | hitPoints =>
      obtain ⟨limit, -, rfl⟩ := List.mem_map.1 member
      exact raised limit
  | magicPoints =>
      obtain ⟨limit, -, rfl⟩ := List.mem_map.1 member
      exact raised limit
  | sanity =>
      obtain rfl := List.mem_singleton.1 member
      exact raised _
  | mythos =>
      rcases mem_clamps_mythos rfl member with rfl | ⟨current, _, _, rfl⟩
      · exact (by decide : (0 : Int) ≤ 99)
      · exact raised _
  | part part key => cases member

theorem putAt_clamps (card : CocCard) (now : Instant) (value : Int) (place : Place) :
    ∀ clamp ∈ card.clamps now value place, ∃ inner, clamp.place = .coc inner ∧
      (card.putAt now value place).1.numberAt? inner = some clamp.result := by
  have kept (values : Values) (key : String) (number : Int) : (values.insert key number)[key]? = some number := by
    rw [Table.get_insert, if_pos rfl]
  intro clamp member
  cases place with
  | hitPoints =>
      obtain ⟨limit, known, rfl⟩ := List.mem_map.1 member
      refine ⟨.hitPoints, rfl, (kept _ _ _).trans ?_⟩
      rw [Option.mem_toList.1 known]
      rfl
  | magicPoints =>
      obtain ⟨limit, known, rfl⟩ := List.mem_map.1 member
      refine ⟨.magicPoints, rfl, (kept _ _ _).trans ?_⟩
      rw [Option.mem_toList.1 known]
      rfl
  | sanity =>
      obtain rfl := List.mem_singleton.1 member
      exact ⟨.sanity, rfl, kept _ _ _⟩
  | mythos =>
      rcases mem_clamps_mythos rfl member with rfl | ⟨current, stands, tooMuch, rfl⟩
      · refine ⟨.mythos, rfl, ?_⟩
        change (card.setMythos now value).1.skills[mythos]? = _
        rw [(card.setMythos_skills now value).2, kept]
        rfl
      · refine ⟨.sanity, rfl, ?_⟩
        change (card.setMythos now value).1.basic[sanity]? = _
        rcases setMythos_cases rfl with ⟨other, there, _, same⟩ | ⟨enough, _⟩
        · obtain rfl := Option.some.inj (stands.symm.trans there)
          rw [same]
          exact kept _ _ _
        · exact absurd tooMuch (Int.not_lt.2 (enough current stands))
  | part part key => cases member

end CocCard

namespace DndCard

/-- The number that is brought between bounds when a number is written to a place. -/
def clamps (card : DndCard) (value : Int) : Place → List Clamp
  | .skill key => [⟨.dnd (.skill key), 0, 2, value⟩]
  | .hitPoints =>
    card.basic[maxHitPoints]?.toList.map fun limit => ⟨.dnd .hitPoints, 0, max limit 0, value⟩
  | .slot key slotLevel =>
    card.spellSlots[slotLevel]?.toList.map fun slot => ⟨.dnd (.slot key slotLevel), 0, slot.max, value⟩
  | .saving _ _ => []
  | .part _ _ => []

/-- The number that is kept at a place. A saving throw counts one if it is proficient. -/
def numberAt? (card : DndCard) : Place → Option Int
  | .skill key => card.skills[key]?
  | .saving _ prop => some (if card.savingProficiency.contains prop then 1 else 0)
  | .hitPoints => card.basic[hitPoints]?
  | .slot _ slotLevel => card.spellSlots[slotLevel]?.map (·.value)
  | .part part key => (card.part part)[key]?

/-- The name leads to spell slots with a negative maximum. -/
def NegativeSlot (card : DndCard) (input : String) : Prop :=
  ∃ key slotLevel slot, card.place input = .slot key slotLevel ∧
    card.spellSlots[slotLevel]? = some slot ∧ slot.max < 0

variable {card after : DndCard} {now : Instant} {value : Int} {place : Place} {changed : Bool}

/-- Only the bounds of spell slots can be out of order. -/
theorem clamps_inOrder_iff : (∀ clamp ∈ card.clamps value place, clamp.InOrder) ↔
    ∀ key slotLevel slot, place = .slot key slotLevel → card.spellSlots[slotLevel]? = some slot →
      0 ≤ slot.max := by
  cases place with
  | slot key slotLevel =>
      constructor
      · intro ordered _ _ slot same kept
        cases same
        exact ordered _ (List.mem_map.2 ⟨slot, Option.mem_toList.2 kept, rfl⟩)
      · intro room clamp member
        obtain ⟨slot, kept, rfl⟩ := List.mem_map.1 member
        exact room key slotLevel slot rfl (Option.mem_toList.1 kept)
  | skill key =>
      refine ⟨fun _ _ _ _ => nofun, fun _ clamp member => ?_⟩
      obtain rfl := List.mem_singleton.1 member
      exact (by decide : (0 : Int) ≤ 2)
  | hitPoints =>
      refine ⟨fun _ _ _ _ => nofun, fun _ clamp member => ?_⟩
      obtain ⟨limit, -, rfl⟩ := List.mem_map.1 member
      exact Int.le_max_right limit 0
  | saving key prop => exact ⟨fun _ _ _ _ => nofun, fun _ _ => nofun⟩
  | part part key => exact ⟨fun _ _ _ _ => nofun, fun _ _ => nofun⟩

theorem putAt_ok_iff (card : DndCard) (now : Instant) (value : Int) (place : Place) :
    (∃ result, card.putAt now value place = .ok result) ↔
      ∀ clamp ∈ card.clamps value place, clamp.InOrder := by
  rw [clamps_inOrder_iff]
  cases place with
  | slot key slotLevel =>
      unfold putAt
      dsimp only
      constructor
      · rintro ⟨result, done⟩ _ _ slot same kept
        cases same
        rw [kept] at done
        dsimp only at done
        unfold setSlot at done
        split at done
        · cases done
        · next room => exact Int.not_lt.1 room
      · intro room
        split
        · next slot kept =>
          rw [setSlot, if_neg (Int.not_lt.2 (room key slotLevel slot rfl kept))]
          exact ⟨_, rfl⟩
        · exact ⟨_, rfl⟩
  | _ => exact ⟨fun _ _ _ _ => nofun, fun _ => ⟨_, rfl⟩⟩

theorem putAt_clamps (done : card.putAt now value place = .ok (after, changed)) :
    ∀ clamp ∈ card.clamps value place, ∃ inner, clamp.place = .dnd inner ∧
      after.numberAt? inner = some clamp.result := by
  intro clamp member
  cases place with
  | skill key =>
      obtain rfl := List.mem_singleton.1 member
      cases done
      exact ⟨.skill key, rfl, (Table.get_insert _ _ _ _).trans (if_pos rfl)⟩
  | hitPoints =>
      obtain ⟨limit, known, rfl⟩ := List.mem_map.1 member
      obtain rfl := congrArg Prod.fst (Except.ok.inj done)
      refine ⟨.hitPoints, rfl, ?_⟩
      unfold setHitPoints
      rw [Option.mem_toList.1 known]
      exact (Table.get_insert _ _ _ _).trans (if_pos rfl)
  | slot key slotLevel =>
      obtain ⟨slot, known, rfl⟩ := List.mem_map.1 member
      unfold putAt at done
      dsimp only at done
      rw [Option.mem_toList.1 known] at done
      dsimp only at done
      unfold setSlot at done
      split at done
      · cases done
      · cases done
        refine ⟨.slot key slotLevel, rfl, ?_⟩
        exact congrArg (Option.map _) ((Table.get_insert _ _ _ _).trans (if_pos rfl))
  | saving key prop => cases member
  | part part key => cases member

end DndCard

namespace Card

/-- The numbers that are brought between bounds when a number is written under a name. -/
def clamps (card : Card) (now : Instant) (input : String) (value : Int) : List Clamp :=
  match card with
  | .general _ => []
  | .coc card => card.clamps now value (card.place input)
  | .dnd card => card.clamps value (card.place input)

/-- The number that is kept at a place. -/
def numberAt? : Card → Place → Option Int
  | .general card, .general key => card.skills[key]?
  | .coc card, .coc place => card.numberAt? place
  | .dnd card, .dnd place => card.numberAt? place
  | _, _ => none

/-- The name leads to spell slots with a negative maximum. -/
def NegativeSlot (card : Card) (input : String) : Prop :=
  ∃ dnd, card = .dnd dnd ∧ dnd.NegativeSlot input

/-- Whatever stands on a card, a number can be written under a name exactly if the bounds on its way are in
order. They always are, unless the name leads to spell slots with a negative maximum. What was brought between
bounds is kept so. -/
theorem setEntry_ok_iff (card : Card) (now : Instant) (input : String) (value : Int) :
    ((∃ after changed, card.setEntry now input value = .ok (after, changed)) ↔
      ∀ clamp ∈ card.clamps now input value, clamp.InOrder) ∧
    ((∀ clamp ∈ card.clamps now input value, clamp.InOrder) ↔ ¬card.NegativeSlot input) ∧
    ∀ after changed, card.setEntry now input value = .ok (after, changed) →
      ∀ clamp ∈ card.clamps now input value, after.numberAt? clamp.place = some clamp.result := by
  cases card with
  | general card =>
      have none : ∀ clamp ∈ (general card).clamps now input value, clamp.InOrder := by
        intro clamp member
        cases member
      refine ⟨⟨fun _ => none, fun _ => ⟨_, _, rfl⟩⟩, ⟨?_, fun _ => none⟩, ?_⟩
      · rintro _ ⟨dnd, same, _⟩
        cases same
      · intro after changed _ clamp member
        cases member
  | coc card =>
      have ordered := card.clamps_inOrder now value (card.place input)
      refine ⟨⟨fun _ => ordered, fun _ => ⟨_, _, rfl⟩⟩, ⟨?_, fun _ => ordered⟩, ?_⟩
      · rintro _ ⟨dnd, same, _⟩
        cases same
      · intro after changed done clamp member
        obtain ⟨inner, place, kept⟩ := card.putAt_clamps now value (card.place input) clamp member
        rw [← CocCard.setEntry_eq_putAt] at kept
        cases done
        rw [place]
        exact kept
  | dnd card =>
      refine ⟨?_, ?_, ?_⟩
      · change _ ↔ ∀ clamp ∈ card.clamps value (card.place input), clamp.InOrder
        rw [← card.putAt_ok_iff now, ← DndCard.setEntry_eq_putAt]
        constructor
        · rintro ⟨after, changed, done⟩
          obtain ⟨inner, put, _⟩ := map_eq_ok.1 done
          exact ⟨inner, put⟩
        · rintro ⟨result, put⟩
          exact ⟨_, _, map_eq_ok.2 ⟨result, put, rfl⟩⟩
      · change (∀ clamp ∈ card.clamps value (card.place input), clamp.InOrder) ↔ _
        rw [DndCard.clamps_inOrder_iff]
        constructor
        · rintro room ⟨_, same, key, slotLevel, slot, named, kept, negative⟩
          cases same
          exact absurd negative (Int.not_lt.2 (room key slotLevel slot named kept))
        · intro positive key slotLevel slot named kept
          exact Int.not_lt.1 fun negative => positive ⟨card, rfl, key, slotLevel, slot, named, kept, negative⟩
      · intro after changed done clamp member
        obtain ⟨⟨inner, told⟩, put, same⟩ := map_eq_ok.1 done
        cases same
        rw [DndCard.setEntry_eq_putAt] at put
        obtain ⟨place, is, kept⟩ := DndCard.putAt_clamps put clamp member
        rw [is]
        exact kept

/-- What a card file may hold: spell slots of which there are fewer than none. -/
def overdrawn : Json :=
  let slot : Json := .object [("value", .int 0), ("max", .int (-1))]
  .object [("type", .string "dnd"), ("name", .string "Tav"),
    ("meta", .object [("spell_slots", .object [("1", slot)])])]

/-- The card is read without a complaint, but its slots cannot be written. -/
theorem setEntry_overdrawn :
    ∃ card, ofJson .epoch overdrawn = .ok card ∧
      ⟨.dnd (.slot "1环" "1"), 0, -1, 5⟩ ∈ card.clamps .epoch "1环" 5 ∧
      card.setEntry .epoch "1环" 5 = .error .invertedBounds := by
  have done : (ofJson .epoch overdrawn).toOption.any (fun card =>
      decide (⟨.dnd (.slot "1环" "1"), 0, -1, 5⟩ ∈ card.clamps .epoch "1环" 5) &&
        decide (card.setEntry .epoch "1环" 5 = .error .invertedBounds)) = true := by
    decide +kernel
  obtain ⟨card, read, facts⟩ := (Option.any_eq_true _ _).1 done
  simp only [Bool.and_eq_true, decide_eq_true_eq] at facts
  exact ⟨card, toOption_eq_some.1 read, facts⟩

end Card

end Tabletop
