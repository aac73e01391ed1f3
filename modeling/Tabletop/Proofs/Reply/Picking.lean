/-
This file proves that a reply text is picked with the chance that its weight gives it, as long as the weights add up to
a number of 32 bits.
-/

import Mathlib.Order.Interval.Finset.Nat
import Tabletop.Proofs.Lists
import Tabletop.Reply.Text

namespace Tabletop.Reply

variable {items : List Item} {number index : Nat}

/-- The sum of all weights. -/
def weightOf (items : List Item) : Nat :=
  (items.map (·.weight)).sum

/-- The place of the item in whose share the number falls. -/
def placeAt : (number : Nat) → List Item → Nat
  | _, [] => 0
  | number, item :: others =>
    if number ≤ item.weight then 0 else placeAt (number - item.weight) others + 1

theorem itemAt?_eq (number : Nat) (items : List Item) : itemAt? number items = items[placeAt number items]? := by
  induction items generalizing number with
  | nil => rfl
  | cons item others inductionHypothesis =>
      rw [itemAt?, placeAt]
      split_ifs with within
      · rfl
      · rw [inductionHypothesis, List.getElem?_cons_succ]

theorem placeAt_lt (within : number ≤ weightOf items) (some : items ≠ []) : placeAt number items < items.length := by
  induction items generalizing number with
  | nil => exact absurd rfl some
  | cons item others inductionHypothesis =>
      rw [placeAt]
      rw [weightOf, List.map_cons, List.sum_cons] at within
      split_ifs with here
      · exact Nat.succ_pos _
      · have further : number - item.weight ≤ weightOf others := by
          rw [weightOf]
          omega
        have left : others ≠ [] := by
          rintro rfl
          simp at within
          omega
        exact Nat.succ_lt_succ (inductionHypothesis further left)

/-- The shares lie side by side: the one of an item starts where the weights of the items before it end. -/
theorem placeAt_eq_iff (positive : 0 < number) (inside : index < items.length) :
    placeAt number items = index ↔
      weightOf (items.take index) < number ∧ number ≤ weightOf (items.take index) + items[index].weight := by
  induction items generalizing number index with
  | nil => cases inside
  | cons item others inductionHypothesis =>
      cases index with
      | zero =>
          simp only [placeAt, List.take_zero, weightOf]
          split_ifs with here <;> simp <;> omega
      | succ index =>
          simp only [placeAt, List.take_succ_cons, weightOf, List.map_cons, List.sum_cons, List.getElem_cons_succ]
          split_ifs with here
          · simp
            omega
          · have less : 0 < number - item.weight := by omega
            have further := inductionHypothesis less (Nat.lt_of_succ_lt_succ inside)
            rw [weightOf] at further
            omega

theorem draw_mem {high : Nat} (positive : 0 < high) (faces : Faces) :
    (Faces.draw 1 high faces).1 ∈ Finset.Icc 1 high := by
  rw [Faces.draw, Finset.mem_Icc]
  omega

theorem weightOf_take_le (items : List Item) (inside : index < items.length) :
    weightOf (items.take index) + items[index].weight ≤ weightOf items := by
  have parts := congrArg weightOf (List.take_append_drop index items)
  rw [List.drop_eq_getElem_cons inside] at parts
  simp only [weightOf, List.map_append, List.map_cons, List.sum_append, List.sum_cons] at parts ⊢
  omega

/-- As many numbers fall in the share of an item as its weight says. -/
theorem card_share (items : List Item) (inside : index < items.length) :
    ((Finset.Icc 1 (weightOf items)).filter (placeAt · items = index)).card = items[index].weight := by
  have ends := weightOf_take_le items inside
  have share : (Finset.Icc 1 (weightOf items)).filter (placeAt · items = index) =
      Finset.Ioc (weightOf (items.take index)) (weightOf (items.take index) + items[index].weight) := by
    ext number
    rw [Finset.mem_filter, Finset.mem_Icc, Finset.mem_Ioc]
    constructor
    · rintro ⟨⟨positive, -⟩, here⟩
      exact (placeAt_eq_iff positive inside).1 here
    · rintro ⟨above, within⟩
      exact ⟨⟨by omega, by omega⟩, (placeAt_eq_iff (by omega) inside).2 ⟨above, within⟩⟩
  rw [share, Nat.card_Ioc, Nat.add_sub_cancel_left]

/-- The sum of weights below the bound of machine numbers is the range that is drawn from. -/
theorem pick_eq (several : 2 ≤ items.length) (positive : 0 < weightOf items)
    (fits : weightOf items < Number.countRange) (faces : Faces) : pick items faces =
      (items[placeAt (Faces.draw 1 (weightOf items) faces).1 items]?,
        (Faces.draw 1 (weightOf items) faces).2) := by
  match items, several with
  | first :: second :: others, _ =>
    have total : Number.total ((first :: second :: others).map (·.weight)) % Number.countRange =
        weightOf (first :: second :: others) := by
      rw [Number.total_eq_sum]
      exact Nat.mod_eq_of_lt fits
    have within := (Finset.mem_Icc.1 (draw_mem positive faces)).2
    have found := Option.isSome_of_eq_some
      (List.getElem?_eq_getElem (placeAt_lt within (List.cons_ne_nil first _)))
    rw [pick]
    · simp only [total, positive.ne', if_false, itemAt?_eq]
      exact Prod.ext (Option.or_of_isSome found) rfl
    · simp

/-- A choice among items asks for one number up to the sum of their weights. Each item is the choice for as many numbers
as its weight says, and one without weight is never chosen. -/
structure PicksFairly (items : List Item) (place : Nat → Nat) : Prop where
  asks : ∀ faces : Faces, pick items faces =
    (items[place (Faces.draw 1 (weightOf items) faces).1]?, (Faces.draw 1 (weightOf items) faces).2)
  finds : ∀ number ∈ Finset.Icc 1 (weightOf items), place number < items.length
  shares : ∀ index (inside : index < items.length),
    ((Finset.Icc 1 (weightOf items)).filter (place · = index)).card = items[index].weight
  chooses : ∀ faces item, (pick items faces).1 = some item → 0 < item.weight

end Tabletop.Reply
