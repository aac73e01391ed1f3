/-
This file states what the dice of a term show and which of them count, and proves that they are rolled so.

The dice of an expression are thrown one after the other. Random ones show the faces of the source in this order.
-/

import Tabletop.Notation.Roll
import Tabletop.Proofs.Lists
import Mathlib.Data.List.Perm.Basic

namespace Tabletop

namespace Faces

/-- Every number of the stream is in the range that is asked for. -/
def InRange (faces : Faces) : Prop :=
  ∀ index low high, low ≤ high → low ≤ faces.stream index low high ∧ faces.stream index low high ≤ high

theorem draw_inRange {faces : Faces} (inRange : faces.InRange) {low high : Nat} (ordered : low ≤ high) :
    draw low high faces =
      (faces.stream faces.taken low high, { faces with taken := faces.taken + 1 }) := by
  obtain ⟨above, below⟩ := inRange faces.taken low high ordered
  have nearest : max low (min (max low high) (faces.stream faces.taken low high)) =
      faces.stream faces.taken low high := by omega
  exact congrArg (·, { faces with taken := faces.taken + 1 }) nearest

theorem seeded_inRange (seed : Nat) : (seeded seed).InRange := by
  intro index low high ordered
  simp only [seeded]
  generalize (mix _).toNat = number
  have small : number % (high + 1 - low) < high + 1 - low := Nat.mod_lt _ (by omega)
  omega

end Faces

namespace Notation

/-- The face of a die that is thrown after `thrown` others. -/
def Mode.faceAt (mode : Mode) (faces : Faces) (sides thrown : Nat) : Nat :=
  match mode with
  | .random => faces.stream (faces.taken + thrown) 1 sides
  | .maximize => sides
  | .minimize => 1

/-- The source after `thrown` dice. Only random dice take faces. -/
def Mode.facesAfter (mode : Mode) (faces : Faces) (thrown : Nat) : Faces :=
  match mode with
  | .random => { faces with taken := faces.taken + thrown }
  | .maximize => faces
  | .minimize => faces

theorem Mode.facesAfter_zero (mode : Mode) (faces : Faces) : mode.facesAfter faces 0 = faces := by
  cases mode <;> rfl

variable {mode : Mode} {faces : Faces} {sides thrown left count : Nat}

theorem face_facesAfter (mode : Mode) (inRange : faces.InRange) (positive : 1 ≤ sides) (thrown : Nat) :
    face mode sides (mode.facesAfter faces thrown) =
      (mode.faceAt faces sides thrown, mode.facesAfter faces (thrown + 1)) := by
  cases mode with
  | random =>
      have stillInRange : (Mode.random.facesAfter faces thrown).InRange := fun index => inRange index
      exact Faces.draw_inRange stillInRange positive
  | maximize => rfl
  | minimize => rfl

theorem faceAt_le (inRange : faces.InRange) (positive : 1 ≤ sides) (thrown : Nat) :
    mode.faceAt faces sides thrown ≤ sides := by
  cases mode with
  | random => exact (inRange _ 1 sides positive).2
  | maximize => exact Nat.le_refl sides
  | minimize => exact positive

/-- The dice show the faces of the source one after the other. -/
inductive InOrder (mode : Mode) (faces : Faces) : (thrown : Nat) → List Die → Prop where
  | nil {thrown : Nat} : InOrder mode faces thrown []
  | cons {thrown : Nat} {die : Die} {dice : List Die} (shows : die.value = mode.faceAt faces die.sides thrown)
      (others : InOrder mode faces (thrown + 1) dice) : InOrder mode faces thrown (die :: dice)

theorem InOrder.append {dice more : List Die} (first : InOrder mode faces thrown dice)
    (second : InOrder mode faces (thrown + dice.length) more) : InOrder mode faces thrown (dice ++ more) := by
  induction first with
  | nil => exact second
  | @cons thrown die dice shows others inductionHypothesis =>
      refine .cons shows (inductionHypothesis ?_)
      rwa [List.length_cons, Nat.add_comm dice.length, ← Nat.add_assoc] at second

/-- The dice that exploded. -/
def explosionsOf (dice : List Die) : Nat :=
  dice.countP (·.exploded)

theorem explosionsOf_cons {die : Die} (exploded : die.exploded = true) (dice : List Die) :
    explosionsOf (die :: dice) = explosionsOf dice + 1 :=
  List.countP_cons_of_pos exploded

theorem explosionsOf_append (dice more : List Die) :
    explosionsOf (dice ++ more) = explosionsOf dice + explosionsOf more :=
  List.countP_append

/-- The dice of `count` throws that begin after `thrown` dice and may bring `left` more. A die on its highest
face brings another one, unless no explosion is left. -/
inductive Rolled (mode : Mode) (faces : Faces) (sides : Nat) :
    (thrown left count : Nat) → List Die → Prop where
  | none {thrown left : Nat} : Rolled mode faces sides thrown left 0 []
  | plain {thrown left count value : Nat} {dice : List Die} {kept : Bool}
      (shows : value = mode.faceAt faces sides thrown) (stops : value = sides → left = 0)
      (others : Rolled mode faces sides (thrown + 1) left count dice) :
      Rolled mode faces sides thrown left (count + 1) (⟨sides, value, kept, false⟩ :: dice)
  | explosion {thrown left count value : Nat} {dice : List Die} {kept : Bool}
      (shows : value = mode.faceAt faces sides thrown) (highest : value = sides)
      (others : Rolled mode faces sides (thrown + 1) left (count + 1) dice) :
      Rolled mode faces sides thrown (left + 1) (count + 1) (⟨sides, value, kept, true⟩ :: dice)

namespace Rolled

variable {dice more : List Die} {moreCount : Nat}

theorem append (first : Rolled mode faces sides thrown left count dice)
    (second : Rolled mode faces sides (thrown + dice.length) (left - explosionsOf dice) moreCount more) :
    Rolled mode faces sides thrown left (count + moreCount) (dice ++ more) := by
  induction first with
  | none => simpa [explosionsOf] using second
  | @plain thrown left count value dice kept shows stops others inductionHypothesis =>
      rw [Nat.add_right_comm]
      refine .plain shows stops (inductionHypothesis ?_)
      simpa [explosionsOf, Nat.add_assoc, Nat.add_comm 1] using second
  | @explosion thrown left count value dice kept shows highest others inductionHypothesis =>
      rw [Nat.add_right_comm]
      refine .explosion shows highest ?_
      rw [Nat.add_right_comm]
      refine inductionHypothesis ?_
      simpa [explosionsOf, Nat.add_assoc, Nat.add_comm 1] using second

/-- Which dice count makes no difference to how they are rolled. -/
theorem congr (rolled : Rolled mode faces sides thrown left count dice)
    (same : more.map (fun die => (die.sides, die.value, die.exploded)) =
      dice.map fun die => (die.sides, die.value, die.exploded)) :
    Rolled mode faces sides thrown left count more := by
  induction rolled generalizing more with
  | none =>
      rw [List.map_eq_nil_iff.1 same]
      exact .none
  | plain shows stops others inductionHypothesis =>
      obtain ⟨⟨_, _, kept, _⟩, rest, rfl, equal, equalRest⟩ := List.map_eq_cons_iff.1 same
      cases equal
      exact .plain shows stops (inductionHypothesis equalRest)
  | explosion shows highest others inductionHypothesis =>
      obtain ⟨⟨_, _, kept, _⟩, rest, rfl, equal, equalRest⟩ := List.map_eq_cons_iff.1 same
      cases equal
      exact .explosion shows highest (inductionHypothesis equalRest)

theorem inOrder (rolled : Rolled mode faces sides thrown left count dice) : InOrder mode faces thrown dice := by
  induction rolled with
  | none => exact .nil
  | plain shows stops others inductionHypothesis => exact .cons shows inductionHypothesis
  | explosion shows highest others inductionHypothesis => exact .cons shows inductionHypothesis

theorem length_le (rolled : Rolled mode faces sides thrown left count dice) :
    dice.length ≤ count + left := by
  induction rolled with
  | none => exact Nat.zero_le _
  | plain shows stops others inductionHypothesis =>
      simp only [List.length_cons]
      omega
  | explosion shows highest others inductionHypothesis =>
      simp only [List.length_cons]
      omega

theorem value_le (rolled : Rolled mode faces sides thrown left count dice) (inRange : faces.InRange)
    (positive : 1 ≤ sides) : ∀ die ∈ dice, die.value ≤ sides := by
  induction rolled with
  | none => simp
  | plain shows stops others inductionHypothesis =>
      refine List.forall_mem_cons.2 ⟨?_, inductionHypothesis⟩
      rw [shows]
      exact faceAt_le inRange positive _
  | explosion shows highest others inductionHypothesis =>
      exact List.forall_mem_cons.2 ⟨Nat.le_of_eq highest, inductionHypothesis⟩

end Rolled

/-- A highest face brings another die while an explosion is left. -/
theorem rollDie_highest (highest : (face mode sides faces).1 = sides) (left : Nat) :
    let others := rollDie mode sides left (face mode sides faces).2
    rollDie mode sides (left + 1) faces =
      ((⟨sides, (face mode sides faces).1, true, true⟩ :: others.1.1, others.1.2), others.2) := by
  rcases shown : face mode sides faces with ⟨value, rest⟩
  rw [shown] at highest
  simp only [rollDie, bind, StateT.bind, shown, if_pos highest]
  rfl

/-- Any other face is the last one, as is the highest one if no explosion is left. -/
theorem rollDie_last (last : (face mode sides faces).1 = sides → left = 0) :
    rollDie mode sides left faces =
      (([⟨sides, (face mode sides faces).1, true, false⟩], left), (face mode sides faces).2) := by
  rcases shown : face mode sides faces with ⟨value, rest⟩
  rw [shown] at last
  cases left with
  | zero =>
      simp only [rollDie, bind, StateT.bind, shown]
      rfl
  | succ left =>
      have lower : value ≠ sides := fun highest => nomatch last highest
      simp only [rollDie, bind, StateT.bind, shown, if_neg lower]
      rfl

/-- What holds of a die with any face that can be thrown holds of all dice that are rolled. -/
theorem rollDie_forall {holds : Die → Prop}
    (each : ∀ faces exploded, holds ⟨sides, (face mode sides faces).1, true, exploded⟩) (left : Nat) (faces : Faces) :
    ∀ die ∈ (rollDie mode sides left faces).1.1, holds die := by
  induction left generalizing faces with
  | zero => exact List.forall_mem_singleton.2 (each faces false)
  | succ left inductionHypothesis =>
      by_cases highest : (face mode sides faces).1 = sides
      · rw [rollDie_highest highest]
        exact List.forall_mem_cons.2 ⟨each faces true, inductionHypothesis _⟩
      · rw [rollDie_last (absurd · highest)]
        exact List.forall_mem_singleton.2 (each faces false)

theorem rollDice_forall {holds : Die → Prop}
    (each : ∀ faces exploded, holds ⟨sides, (face mode sides faces).1, true, exploded⟩) (count left : Nat)
    (faces : Faces) : ∀ die ∈ (rollDice mode sides count left faces).1, holds die := by
  induction count generalizing left faces with
  | zero => exact fun die member => absurd member List.not_mem_nil
  | succ count inductionHypothesis =>
      exact List.forall_mem_append.2 ⟨rollDie_forall each left faces, inductionHypothesis _ _⟩

/-- A die is rolled until it shows no highest face or no explosion is left. The induction is on these. -/
theorem rollDie_rolled (mode : Mode) (inRange : faces.InRange) (positive : 1 ≤ sides) (thrown left : Nat) :
    ∃ dice, rollDie mode sides left (mode.facesAfter faces thrown) =
        ((dice, left - explosionsOf dice), mode.facesAfter faces (thrown + dice.length)) ∧
      Rolled mode faces sides thrown left 1 dice ∧ ∀ die ∈ dice, die.kept = true := by
  have shown (thrown : Nat) := face_facesAfter mode inRange positive thrown
  induction left generalizing thrown with
  | zero =>
      refine ⟨[⟨sides, mode.faceAt faces sides thrown, true, false⟩], ?_, .plain rfl (fun _ => rfl) .none, by simp⟩
      rw [rollDie_last fun _ => rfl, shown]
      rfl
  | succ left inductionHypothesis =>
      by_cases highest : mode.faceAt faces sides thrown = sides
      · obtain ⟨dice, done, rolled, kept⟩ := inductionHypothesis (thrown + 1)
        refine ⟨⟨sides, mode.faceAt faces sides thrown, true, true⟩ :: dice, ?_, ?_, ?_⟩
        · have shows : (face mode sides (mode.facesAfter faces thrown)).1 = sides := by rw [shown, highest]
          rw [explosionsOf_cons rfl, Nat.add_sub_add_right, List.length_cons, Nat.add_comm dice.length,
            ← Nat.add_assoc, rollDie_highest shows, shown, done]
        · exact .explosion rfl highest rolled
        · exact List.forall_mem_cons.2 ⟨rfl, kept⟩
      · refine ⟨[⟨sides, mode.faceAt faces sides thrown, true, false⟩], ?_,
          .plain rfl (fun same => absurd same highest) .none, by simp⟩
        rw [rollDie_last (by rw [shown]; exact (absurd · highest)), shown]
        rfl

theorem rollDice_rolled (mode : Mode) (inRange : faces.InRange) (positive : 1 ≤ sides) (thrown left count : Nat) :
    ∃ dice, rollDice mode sides count left (mode.facesAfter faces thrown) =
        (dice, mode.facesAfter faces (thrown + dice.length)) ∧
      Rolled mode faces sides thrown left count dice ∧ ∀ die ∈ dice, die.kept = true := by
  induction count generalizing thrown left with
  | zero => exact ⟨[], rfl, .none, by simp⟩
  | succ count inductionHypothesis =>
      obtain ⟨dice, done, rolled, kept⟩ := rollDie_rolled mode inRange positive thrown left
      obtain ⟨more, moreDone, moreRolled, moreKept⟩ :=
        inductionHypothesis (thrown + dice.length) (left - explosionsOf dice)
      refine ⟨dice ++ more, ?_, ?_, ?_⟩
      · simp only [rollDice, bind, StateT.bind, done, moreDone]
        rw [List.length_append, ← Nat.add_assoc]
        rfl
      · rw [Nat.add_comm count 1]
        exact rolled.append moreRolled
      · exact List.forall_mem_append.2 ⟨kept, moreKept⟩

/-! Selectors -/

/-- So many dice count, and a relation holds between the faces of those that do and those that do not. -/
structure Selects (count : Nat) (before : Nat → Nat → Prop) (dice : List Die) : Prop where
  many : dice.countP (·.kept) = count
  apart : ∀ kept ∈ dice, ∀ dropped ∈ dice, kept.kept = true → dropped.kept = false →
    before kept.value dropped.value

/-- The dice that a selector lets count: so many of the highest or of the lowest ones. -/
def Selector.Keeps (selector : Selector) (dice : List Die) : Prop :=
  match selector.selection with
  | .keepHighest => Selects (min selector.count dice.length) (· ≥ ·) dice
  | .keepLowest => Selects (min selector.count dice.length) (· ≤ ·) dice
  | .dropHighest => Selects (dice.length - selector.count) (· ≤ ·) dice
  | .dropLowest => Selects (dice.length - selector.count) (· ≥ ·) dice

/-- The face of the die at a place. -/
def valueAt (dice : List Die) (place : Nat) : Nat :=
  (dice[place]?.map (·.value)).getD 0

/-- Marking the first places of an order selects them. -/
theorem selects_take {dice : List Die} {order : List Nat} {before : Nat → Nat → Prop}
    (all : order.Perm (List.range dice.length))
    (sorted : order.Pairwise fun first second => before (valueAt dice first) (valueAt dice second))
    (count : Nat) :
    Selects (min count dice.length) before
      (dice.zipIdx.map fun (die, place) => { die with kept := (order.take count).contains place }) where
  many := by
    have distinct : (order.take count).Nodup :=
      ((all.nodup_iff).2 List.nodup_range).sublist (List.take_sublist _ _)
    have marked : ((List.range dice.length).filter (order.take count).contains).Perm (order.take count) := by
      refine (List.perm_ext_iff_of_nodup (List.nodup_range.filter _) distinct).2 fun place => ?_
      rw [List.mem_filter, List.contains_iff_mem, and_iff_right_iff_imp]
      exact fun member => all.mem_iff.1 (List.mem_of_mem_take member)
    have places : dice.zipIdx.map (·.2) = List.range dice.length := by
      rw [List.zipIdx_map_snd, List.range_eq_range']
    rw [List.countP_map]
    change dice.zipIdx.countP ((order.take count).contains ∘ (·.2)) = _
    rw [← List.countP_map, places, List.countP_eq_length_filter, marked.length_eq, List.length_take,
      all.length_eq, List.length_range]
  apart := by
    intro kept keptMember dropped droppedMember isKept isDropped
    obtain ⟨⟨keptDie, keptPlace⟩, keptHere, rfl⟩ := List.mem_map.1 keptMember
    obtain ⟨⟨droppedDie, droppedPlace⟩, droppedHere, rfl⟩ := List.mem_map.1 droppedMember
    rw [List.mk_mem_zipIdx_iff_getElem?] at keptHere droppedHere
    have early : keptPlace ∈ order.take count := List.contains_iff_mem.1 isKept
    change (order.take count).contains droppedPlace = false at isDropped
    have notEarly : droppedPlace ∉ order.take count := by
      intro member
      rw [List.contains_iff_mem.2 member] at isDropped
      cases isDropped
    have inside : droppedPlace < dice.length := (List.getElem?_eq_some_iff.1 droppedHere).1
    have late : droppedPlace ∈ order.drop count := by
      have member : droppedPlace ∈ order := all.mem_iff.2 (List.mem_range.2 inside)
      rw [← List.take_append_drop count order, List.mem_append] at member
      exact member.resolve_left notEarly
    rw [← List.take_append_drop count order, List.pairwise_append] at sorted
    have related := sorted.2.2 keptPlace early droppedPlace late
    rw [valueAt, valueAt, keptHere, droppedHere] at related
    exact related

theorem placesByFace_perm (dice : List Die) : (placesByFace dice).Perm (List.range dice.length) := by
  have places : dice.zipIdx.map (·.2) = List.range dice.length := by
    rw [List.zipIdx_map_snd, List.range_eq_range']
  rw [← places]
  exact (List.mergeSort_perm _ _).map _

theorem placesByFace_sorted (dice : List Die) :
    (placesByFace dice).Pairwise fun first second => valueAt dice first ≥ valueAt dice second := by
  let ordered (left right : Die × Nat) : Bool := right.1.value ≤ left.1.value
  have sorted : (dice.zipIdx.mergeSort ordered).Pairwise fun left right => ordered left right = true :=
    List.pairwise_mergeSort (fun _ _ _ first second => by simp [ordered] at first second ⊢; omega)
      (fun _ _ => by simp [ordered]; omega) dice.zipIdx
  refine List.pairwise_map.2 (sorted.imp_of_mem ?_)
  rintro ⟨first, place⟩ ⟨second, other⟩ here there inOrder
  rw [(List.mergeSort_perm _ _).mem_iff, List.mk_mem_zipIdx_iff_getElem?] at here there
  rw [valueAt, valueAt, here, there]
  exact of_decide_eq_true inOrder

theorem Selector.mark_keeps (selector : Selector) (dice : List Die) : selector.Keeps (selector.mark dice) := by
  have order := placesByFace_perm dice
  have sorted := placesByFace_sorted dice
  have backwards : (placesByFace dice).reverse.Pairwise fun first second =>
      valueAt dice first ≤ valueAt dice second := List.pairwise_reverse.2 sorted
  have length : (selector.mark dice).length = dice.length := by simp [mark]
  obtain ⟨selection, count⟩ := selector
  unfold Keeps
  rw [length]
  cases selection with
  | keepHighest => exact selects_take order sorted count
  | keepLowest => exact selects_take ((List.reverse_perm _).trans order) backwards count
  | dropHighest =>
      have selected := selects_take ((List.reverse_perm _).trans order) backwards (dice.length - count)
      rwa [Nat.min_eq_left (Nat.sub_le _ _)] at selected
  | dropLowest =>
      have selected := selects_take order sorted (dice.length - count)
      rwa [Nat.min_eq_left (Nat.sub_le _ _)] at selected

/-- A selector changes nothing but which dice count. -/
theorem Selector.mark_same (selector : Selector) (dice : List Die) :
    (selector.mark dice).map (fun die => (die.sides, die.value, die.exploded)) =
      dice.map fun die => (die.sides, die.value, die.exploded) := by
  rw [mark, List.map_map]
  change dice.zipIdx.map ((fun die : Die => (die.sides, die.value, die.exploded)) ∘ (·.1)) = _
  rw [← List.map_map, List.zipIdx_map_fst]

/-! Terms -/

/-- What a term throws after `thrown` dice. Without a selector all of its dice count. -/
structure DiceTerm.Throws (term : DiceTerm) (mode : Mode) (faces : Faces) (thrown : Nat) (dice : List Die) :
    Prop where
  rolled : Rolled mode faces term.sides thrown (term.explosions mode) term.count dice
  kept : match term.selector with
    | some selector => selector.Keeps dice
    | none => ∀ die ∈ dice, die.kept = true

/-- The sum of the faces that count. -/
def sumOf (dice : List Die) : Nat :=
  ((dice.filter (·.kept)).map (·.value)).sum

theorem DiceTerm.roll_throws (term : DiceTerm) (mode : Mode) (inRange : faces.InRange) (positive : 1 ≤ term.sides)
    (thrown : Nat) : ∃ dice, term.Throws mode faces thrown dice ∧
      term.roll mode (mode.facesAfter faces thrown) =
        (⟨sumOf dice, diceText dice, dice⟩, mode.facesAfter faces (thrown + dice.length)) := by
  obtain ⟨rolledDice, done, rolled, kept⟩ :=
    rollDice_rolled mode inRange positive thrown (term.explosions mode) term.count
  have summed (dice : List Die) : (keptSum dice : Int) = sumOf dice := by rw [keptSum, Number.total_eq_sum, sumOf]
  cases chosen : term.selector with
  | none =>
      refine ⟨rolledDice, ⟨rolled, by rw [chosen]; exact kept⟩, ?_⟩
      simp only [roll, bind, StateT.bind, done, chosen, ← summed]
      rfl
  | some selector =>
      have length : (selector.mark rolledDice).length = rolledDice.length := by simp [Selector.mark]
      refine ⟨selector.mark rolledDice, ⟨rolled.congr (selector.mark_same _), ?_⟩, ?_⟩
      · rw [chosen]
        exact selector.mark_keeps rolledDice
      · simp only [roll, bind, StateT.bind, done, chosen, ← summed, length]
        rfl

theorem DiceTerm.explosions_le (term : DiceTerm) (mode : Mode) : term.explosions mode ≤ 100 := by
  unfold explosions
  split
  · exact Nat.le_refl _
  · exact Nat.zero_le _

/-- The running sum of the dice of a term stays far below the bound of 64-bit arithmetic. -/
theorem DiceTerm.Throws.sum_le {term : DiceTerm} {dice : List Die} (throws : term.Throws mode faces thrown dice)
    (inRange : faces.InRange) (few : term.count ≤ 1000) (positive : 1 ≤ term.sides)
    (small : term.sides ≤ 100000) (first : Nat) : sumOf (dice.take first) ≤ 1100 * 100000 := by
  have each : ∀ value ∈ ((dice.take first).filter (·.kept)).map (·.value), value ≤ term.sides := by
    intro value member
    obtain ⟨die, kept, rfl⟩ := List.mem_map.1 member
    exact throws.rolled.value_le inRange positive die (List.mem_of_mem_take (List.mem_filter.1 kept).1)
  have bound := Number.total_le each
  have fewer : ((dice.take first).filter (·.kept)).length ≤ (dice.take first).length := List.length_filter_le _ _
  have many := throws.rolled.length_le
  have explosions := term.explosions_le mode
  have shorter : (dice.take first).length ≤ dice.length := List.length_take_le' _ _
  rw [List.length_map, Number.total_eq_sum] at bound
  exact bound.trans (Nat.mul_le_mul (by omega) small)

end Notation

end Tabletop
