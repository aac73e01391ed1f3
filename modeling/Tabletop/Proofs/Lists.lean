/-
This file proves that lists of numbers are added up as usual, and what is left of lists in which only the last items
count, each at its last place.
-/

import Mathlib.Algebra.Order.BigOperators.Group.List
import Mathlib.Algebra.Order.Ring.Nat
import Mathlib.Data.List.Dedup
import Mathlib.Data.List.DropRight
import Tabletop.Number.Numeral

namespace Tabletop.Number

theorem total_eq_sum (numbers : List Nat) : total numbers = numbers.sum := by
  induction numbers with
  | nil => rfl
  | cons number others inductionHypothesis => rw [total, inductionHypothesis, List.sum_cons]

theorem total_append (numbers others : List Nat) : total (numbers ++ others) = total numbers + total others := by
  simp only [total_eq_sum, List.sum_append]

/-- Numbers below a bound add up to at most as many times the bound. -/
theorem total_le {numbers : List Nat} {bound : Nat} (each : ∀ number ∈ numbers, number ≤ bound) :
    total numbers ≤ numbers.length * bound := by
  rw [total_eq_sum, ← Nat.nsmul_eq_mul]
  exact List.sum_le_card_nsmul numbers bound each

end Tabletop.Number

namespace Tabletop.Recency

theorem dedup_concat (keys : List String) (key : String) :
    (keys ++ [key]).dedup = keys.dedup.filter (· != key) ++ [key] := by
  induction keys with
  | nil => rfl
  | cons first others inductionHypothesis =>
      rw [List.cons_append]
      by_cases again : first ∈ others
      · rw [List.dedup_cons_of_mem (List.mem_append_left _ again), inductionHypothesis,
          List.dedup_cons_of_mem again]
      · rw [List.dedup_cons_of_notMem again]
        by_cases same : first = key
        · subst same
          rw [List.dedup_cons_of_mem (List.mem_append_right _ (List.mem_singleton_self first)),
            inductionHypothesis, List.filter_cons_of_neg (by simp)]
        · rw [List.dedup_cons_of_notMem (by simp [again, same]), inductionHypothesis,
            List.filter_cons_of_pos (by simpa using same), List.cons_append]

theorem rtake_of_length_le {β : Type} {items : List β} {count : Nat} (few : items.length ≤ count) :
    items.rtake count = items := by
  rw [List.rtake, Nat.sub_eq_zero_of_le few, List.drop_zero]

theorem length_rtake_le {β : Type} (items : List β) (count : Nat) : (items.rtake count).length ≤ count := by
  rw [List.rtake, List.length_drop]
  omega

/-- Only the last items matter for the last ones without one of them. -/
theorem rtake_filter_rtake {keys : List String} (nodup : keys.Nodup) (key : String) (count : Nat) :
    ((keys.rtake (count + 1)).filter (· != key)).rtake count = (keys.filter (· != key)).rtake count := by
  by_cases few : keys.length ≤ count + 1
  · rw [rtake_of_length_le few]
  · have late : (keys.rtake (count + 1)).length = count + 1 := by
      rw [List.rtake, List.length_drop]
      omega
    have enough : count ≤ ((keys.rtake (count + 1)).filter (· != key)).length := by
      have lateNodup : (keys.rtake (count + 1)).Nodup := nodup.sublist (List.drop_sublist _ _)
      rw [← lateNodup.erase_eq_filter]
      have shorter := List.le_length_erase (l := keys.rtake (count + 1)) (a := key)
      rw [late] at shorter
      exact shorter
    have cut : keys.filter (· != key) = (keys.take (keys.length - (count + 1))).filter (· != key) ++
        (keys.rtake (count + 1)).filter (· != key) := by
      rw [List.rtake, ← List.filter_append, List.take_append_drop]
    rw [cut]
    generalize (keys.rtake (count + 1)).filter (· != key) = behind at enough ⊢
    rw [List.rtake, List.rtake, List.length_append, Nat.add_sub_assoc enough, List.drop_length_add_append]

end Tabletop.Recency
