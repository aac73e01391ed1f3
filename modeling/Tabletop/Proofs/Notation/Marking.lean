/-
This file proves which dice of a term and of a notation count, and what those of a term come to.

A selector looks at all dice of its term, those that explosions brought included. It changes nothing but which of them
count, and the dice of other terms and the place of a die among all dice make no difference to it. Dice with the same
face stay in order when dice are sorted by their faces. A selector that begins with the lowest face turns them around
with the others.
-/

import Tabletop.Proofs.Notation.Maximum

namespace Tabletop.Notation

variable {faces behind : Faces} {mode : Mode} {sides : Nat}

/-! Dice that explosions bring -/

/-- Each explosion brings one more die. Before some of them are selected, all dice count. -/
theorem length_rollDice (mode : Mode) (sides count left : Nat) (faces : Faces) :
    (rollDice mode sides count left faces).1.length =
        count + explosionsOf (rollDice mode sides count left faces).1 ∧
      ∀ die ∈ (rollDice mode sides count left faces).1, die.kept = true :=
  ⟨(rollDice_bursts mode sides count left faces).length_eq, rollDice_forall (fun _ _ => rfl) count left faces⟩

/-! Dice that count -/

/-- How many of so many dice a selector keeps. -/
def Selector.kept (selector : Selector) (dice : Nat) : Nat :=
  match selector.selection with
  | .keepHighest => min selector.count dice
  | .keepLowest => min selector.count dice
  | .dropHighest => dice - min selector.count dice
  | .dropLowest => dice - min selector.count dice

/-- A die with the one face may be kept while a die with the other one is dropped. -/
def Selector.Prefers (selector : Selector) (kept dropped : Nat) : Prop :=
  match selector.selection with
  | .keepHighest => kept ≥ dropped
  | .keepLowest => kept ≤ dropped
  | .dropHighest => kept ≤ dropped
  | .dropLowest => kept ≥ dropped

/-- The dice are marked: they are the same ones in the same order, the right number of them counts, and no other choice
suits the selector better. -/
structure Selector.Marks (selector : Selector) (dice marked : List Die) : Prop where
  same : marked.map (fun die => (die.sides, die.value, die.exploded)) =
    dice.map fun die => (die.sides, die.value, die.exploded)
  many : marked.countP (·.kept) = selector.kept dice.length
  apart : ∀ kept ∈ marked, ∀ dropped ∈ marked, kept.kept = true → dropped.kept = false →
    selector.Prefers kept.value dropped.value

theorem Selector.mark_marks (selector : Selector) (dice : List Die) : selector.Marks dice (selector.mark dice) := by
  have same := selector.mark_same dice
  have keeps := selector.mark_keeps dice
  have length : (selector.mark dice).length = dice.length := by simp [mark]
  have rest (count : Nat) : dice.length - count = dice.length - min count dice.length := by omega
  obtain ⟨selection, count⟩ := selector
  unfold Keeps at keeps
  rw [length] at keeps
  cases selection with
  | keepHighest => exact ⟨same, keeps.many, keeps.apart⟩
  | keepLowest => exact ⟨same, keeps.many, keeps.apart⟩
  | dropHighest => exact ⟨same, keeps.many.trans (rest count), keeps.apart⟩
  | dropLowest => exact ⟨same, keeps.many.trans (rest count), keeps.apart⟩

/-- The outcome of a term: its dice with one more for each explosion, of which those count that its selector keeps, or
all of them without a selector. The total is the sum of the dice that count. -/
structure DiceTerm.Totals (term : DiceTerm) (outcome : Outcome) (thrown : List Die) : Prop where
  length : thrown.length = term.count + explosionsOf thrown
  all : ∀ die ∈ thrown, die.kept = true
  chosen : outcome.dice = match term.selector with
    | some selector => selector.mark thrown
    | none => thrown
  total : outcome.total = ((outcome.dice.filter (·.kept)).map (·.value)).sum

/-- A selector marks the right dice of every list, and the total of a term is the sum of those of its dice, those that
explosions brought included. -/
theorem DiceTerm.roll_totals :
    (∀ (selector : Selector) (dice : List Die), selector.Marks dice (selector.mark dice)) ∧
      ∀ (term : DiceTerm) (mode : Mode) (faces : Faces),
        term.Totals (term.roll mode faces).1
          (rollDice mode term.sides term.count (term.explosions mode) faces).1 := by
  refine ⟨Selector.mark_marks, fun term mode faces => ?_⟩
  obtain ⟨length, kept⟩ := length_rollDice mode term.sides term.count (term.explosions mode) faces
  refine ⟨length, kept, ?_, ?_⟩
  · rw [term.roll_dice]
    cases term.selector <;> rfl
  · have summed : (term.roll mode faces).1.total = keptSum (term.roll mode faces).1.dice := rfl
    rw [summed, keptSum, Number.total_eq_sum]

/-! Ties -/

/-- The selector keeps dice from the highest face down. The other ones keep dice from the lowest face up. -/
def Selector.keepsFromTop (selector : Selector) : Bool :=
  match selector.selection with
  | .keepHighest => true
  | .keepLowest => false
  | .dropHighest => false
  | .dropLowest => true

/-- Of two dice with the same face of which exactly one counts, it is the earlier one, or it is the later one. -/
def SplitsTies (earlierCounts : Bool) (dice : List Die) : Prop :=
  dice.Pairwise fun earlier later =>
    earlier.value = later.value → earlier.kept ≠ later.kept → earlier.kept = earlierCounts

/-- Of two items of which exactly one is among the first ones, it is the one that stands in front. -/
theorem take_separates {order : List Nat} {first second count : Nat} (distinct : order.Nodup)
    (before : [first, second].Sublist order)
    (apart : (order.take count).contains first ≠ (order.take count).contains second) :
    (order.take count).contains first = true ∧ (order.take count).contains second = false := by
  rw [← List.take_append_drop count order] at distinct before
  have disjoint : ∀ item ∈ order.take count, item ∉ order.drop count :=
    fun item taken left => (List.nodup_append.1 distinct).2.2 item taken item left rfl
  obtain ⟨front, back, split, inFront, inBack⟩ := List.sublist_append_iff.1 before
  have firstTaken : first ∈ order.take count := by
    by_contra firstLeft
    cases front with
    | nil =>
        have secondLeft : second ∈ order.drop count := by
          rw [List.nil_append] at split
          exact inBack.subset (split ▸ List.mem_cons_of_mem _ List.mem_cons_self)
        have secondNotTaken : second ∉ order.take count := fun taken => disjoint second taken secondLeft
        simp [firstLeft, secondNotTaken] at apart
    | cons item front =>
        obtain ⟨rfl, _⟩ := List.cons.inj split
        exact firstLeft (inFront.subset List.mem_cons_self)
  have contained := List.contains_iff_mem.2 firstTaken
  rw [contained] at apart
  exact ⟨contained, Bool.eq_false_iff.2 apart.symm⟩

/-- Dice with the same face stay in the order in which they were rolled. -/
theorem placesByFace_stable {dice : List Die} {earlier later : Die} {first second : Nat}
    (before : [(earlier, first), (later, second)].Sublist dice.zipIdx) (tie : earlier.value = later.value) :
    [first, second].Sublist (placesByFace dice) := by
  let ordered (left right : Die × Nat) : Bool := right.1.value ≤ left.1.value
  have sorted : [(earlier, first), (later, second)].Sublist (dice.zipIdx.mergeSort ordered) :=
    List.pair_sublist_mergeSort (fun _ _ _ first second => by simp [ordered] at first second ⊢; omega)
      (fun _ _ => by simp [ordered]; omega) (by simp [ordered, tie]) before
  exact sorted.map (·.2)

/-- A tie between dice of which not all count goes to the earlier ones if dice are kept from the highest face down, and
to the later ones if they are kept from the lowest face up. -/
theorem Selector.mark_splitsTies (selector : Selector) (dice : List Die) :
    SplitsTies selector.keepsFromTop (selector.mark dice) := by
  have distinct : (placesByFace dice).Nodup := (placesByFace_perm dice).nodup_iff.2 List.nodup_range
  have distinctBackwards : (placesByFace dice).reverse.Nodup := (List.reverse_perm _).nodup_iff.2 distinct
  refine List.pairwise_map.2 (List.pairwise_iff_forall_sublist.2 ?_)
  rintro ⟨earlier, first⟩ ⟨later, second⟩ before tie apart
  have inOrder := placesByFace_stable before tie
  have backwards : [second, first].Sublist (placesByFace dice).reverse := inOrder.reverse
  obtain ⟨selection, count⟩ := selector
  cases selection with
  | keepHighest => exact (take_separates distinct inOrder apart).1
  | keepLowest => exact (take_separates distinctBackwards backwards apart.symm).2
  | dropHighest => exact (take_separates distinctBackwards backwards apart.symm).2
  | dropLowest => exact (take_separates distinct inOrder apart).1

/-- Of two threes the later one is the lower one, and the earlier one is the higher one. -/
theorem Selector.mark_laterKept :
    let thrown : List Die := [⟨6, 3, true, false⟩, ⟨6, 3, true, false⟩]
    ¬SplitsTies true (Selector.mark ⟨.keepLowest, 1⟩ thrown) ∧
      ¬SplitsTies true (Selector.mark ⟨.dropHighest, 1⟩ thrown) ∧
      (roll "2d6kl1" .random (.constant 3)).1.toOption.map (·.working) = some "[3d, 3]" ∧
      (roll "2d6kh1" .random (.constant 3)).1.toOption.map (·.working) = some "[3, 3d]" := by
  intro thrown
  have stays : [0, 1].Sublist (placesByFace thrown) :=
    placesByFace_stable (List.Sublist.refl thrown.zipIdx) (Eq.refl 3)
  have places : placesByFace thrown = [0, 1] := (stays.eq_of_length (placesByFace_perm thrown).length_eq.symm).symm
  have lowest : Selector.mark ⟨.keepLowest, 1⟩ thrown = [⟨6, 3, false, false⟩, ⟨6, 3, true, false⟩] := by
    rw [Selector.mark, Selector.keptPlaces, places]
    rfl
  have notHighest : Selector.mark ⟨.dropHighest, 1⟩ thrown = [⟨6, 3, false, false⟩, ⟨6, 3, true, false⟩] := by
    rw [Selector.mark, Selector.keptPlaces, places]
    rfl
  have highest : Selector.mark ⟨.keepHighest, 1⟩ thrown = [⟨6, 3, true, false⟩, ⟨6, 3, false, false⟩] := by
    rw [Selector.mark, Selector.keptPlaces, places]
    rfl
  have later : ¬SplitsTies true [⟨6, 3, false, false⟩, ⟨6, 3, true, false⟩] := by
    unfold SplitsTies
    decide
  have working (text : String) (selector : Selector)
      (parsed : parse text.toList = .ok (.dice ⟨2, 6, some selector, false⟩)) :
      (roll text .random (.constant 3)).1.toOption.map (·.working) =
        some (String.ofList (diceText (selector.mark thrown))) := by
    rw [roll_of_parse parsed]
    rfl
  have workingLowest := working "2d6kl1" ⟨.keepLowest, 1⟩ (by decide +kernel)
  have workingHighest := working "2d6kh1" ⟨.keepHighest, 1⟩ (by decide +kernel)
  rw [lowest] at workingLowest ⊢
  rw [highest] at workingHighest
  rw [notHighest]
  exact ⟨later, later, workingLowest.trans (by decide +kernel), workingHighest.trans (by decide +kernel)⟩

/-! Dice that are kept -/

namespace DiceTerm

variable {term : DiceTerm}

theorem roll_sides (term : DiceTerm) (mode : Mode) (faces : Faces) :
    ∀ die ∈ (term.roll mode faces).1.dice, die.sides = term.sides := by
  intro die member
  obtain ⟨thrown, there, same⟩ := exists_thrown member
  exact (congrArg (·.1) same).trans ((rollDice_bursts _ _ _ _ _).sides_eq thrown there)

/-- However many dice explosions add, none is discarded. -/
def KeepsAll (term : DiceTerm) : Prop :=
  ∀ thrown ≤ term.count + term.explosions .random, term.counted thrown = thrown

theorem KeepsAll.roll (all : term.KeepsAll) (positive : 1 ≤ term.sides) (faces : Faces) :
    ∀ die ∈ (term.roll .random faces).1.dice, die.kept = true := by
  have few : (term.thrownDice .random faces).length ≤ term.count + term.explosions .random :=
    (rollDice_countable .random positive term.count _ faces).2.2
  have many := term.countP_kept positive .random faces
  rw [all _ few, ← term.length_dice] at many
  exact List.countP_eq_length.1 many

end DiceTerm

/-- No die with so many sides is discarded if no term with such dice discards any. -/
theorem Expr.roll_kept {expr : Expr} (legal : expr.Legal)
    (all : ∀ term ∈ expr.terms, term.sides = sides → term.KeepsAll) {outcome : Outcome}
    (rolled : expr.roll .random faces = (.ok outcome, behind)) :
    ∀ die ∈ outcome.dice, die.sides = sides → die.kept = true := by
  refine Expr.forall_dice (fun term listed faces die member same => ?_) rolled
  have keeps := all term listed ((term.roll_sides _ _ die member).symm.trans same)
  exact keeps.roll (legal term listed).positive faces die member

/-- A term alone shows the dice that its selector leaves, and comes to their sum. -/
theorem roll_keeps {text : String} {term : DiceTerm} {selector : Selector} {result : Result}
    (parsed : parse text.toList = .ok (.dice term)) (chosen : term.selector = some selector)
    (rolled : roll text mode faces = (.ok result, behind)) :
    selector.Keeps result.dice ∧ result.total = keptSum result.dice := by
  obtain ⟨expr, outcome, same, made, total, dice⟩ := roll_eq_ok rolled
  cases parsed.symm.trans same
  obtain rfl : (term.roll mode faces).1 = outcome := Except.ok.inj (congrArg (·.1) made)
  have summed : (term.roll mode faces).1.total = keptSum (term.roll mode faces).1.dice := rfl
  rw [total, summed, dice, term.roll_dice, chosen]
  exact ⟨selector.mark_keeps _, rfl⟩

/-- Of two dice of which the lowest one counts it is the lower one. -/
theorem Selector.Keeps.lower {selector : Selector} {dice : List Die} (keeps : selector.Keeps dice)
    (lowest : selector = ⟨.keepLowest, 1⟩ ∨ selector = ⟨.dropHighest, 1⟩) {high low : Nat} (less : low < high)
    (shown : dice.map (fun die => (die.sides, die.value, die.exploded)) =
      [(sides, high, false), (sides, low, false)]) :
    dice = [⟨sides, high, false, false⟩, ⟨sides, low, true, false⟩] := by
  match dice, shown with
  | [⟨_, _, highKept, _⟩, ⟨_, _, lowKept, _⟩], rfl =>
    have selects : Selects 1 (· ≤ ·) [⟨sides, high, highKept, false⟩, ⟨sides, low, lowKept, false⟩] := by
      rcases lowest with rfl | rfl <;> exact keeps
    obtain ⟨many, apart⟩ := selects
    cases highKept <;> cases lowKept <;> simp at many apart ⊢
    omega

/-! The first die of a kind -/

/-- The first die with so many sides, in the order in which the dice are rolled. It may be discarded. -/
inductive FirstDie (sides : Nat) (dice : List Die) : Option Die → Prop where
  | absent (missing : ∀ die ∈ dice, die.sides ≠ sides) : FirstDie sides dice none
  | stands {first : Die} (earlier later : List Die) (split : dice = earlier ++ first :: later)
      (same : first.sides = sides) (others : ∀ die ∈ earlier, die.sides ≠ sides) : FirstDie sides dice (some first)

theorem find?_firstDie (sides : Nat) (dice : List Die) : FirstDie sides dice (dice.find? (·.sides == sides)) := by
  cases found : dice.find? (·.sides == sides) with
  | none =>
      refine .absent fun die member => ?_
      have other := List.find?_eq_none.1 found die member
      simpa using other
  | some first =>
      obtain ⟨same, earlier, later, split, others⟩ := List.find?_eq_some_iff_append.1 found
      refine .stands earlier later split (eq_of_beq same) fun die member => ?_
      simpa using others die member

theorem FirstDie.mem {dice : List Die} {first : Die} (is : FirstDie sides dice (some first)) :
    first ∈ dice ∧ first.sides = sides := by
  cases is with
  | stands earlier later split same _ => exact ⟨split ▸ List.mem_append_right _ List.mem_cons_self, same⟩

end Tabletop.Notation
