/-
This file proves for which expressions no stream of faces exceeds what all dice on their highest faces give.

With all dice on their highest faces nothing explodes. So the bound fails for dice whose explosions count, and for
dice that take from the value what they show: subtrahends, divisors and the like.
-/

import Tabletop.Proofs.Notation.Evaluation
import Tabletop.Proofs.Notation.Explosions

namespace Tabletop.Notation

variable {mode : Mode} {faces rest : Faces} {sides : Nat}

/-! Dice on their highest faces -/

/-- The die shows its highest face, and it brought no other one. -/
def Die.IsHighest (die : Die) : Prop :=
  die.value = die.sides ∧ die.exploded = false

theorem face_le (mode : Mode) (positive : 1 ≤ sides) (faces : Faces) : (face mode sides faces).1 ≤ sides := by
  cases mode with
  | random =>
      change max 1 (min (max 1 sides) _) ≤ sides
      omega
  | maximize => exact Nat.le_refl sides
  | minimize => exact positive

/-- Dice that all count, with faces up to the highest one. -/
def Countable (sides : Nat) (dice : List Die) : Prop :=
  ∀ die ∈ dice, die.value ≤ sides ∧ die.kept = true

/-- There are at least as many dice as are thrown, and at most one more for each explosion. -/
theorem rollDice_countable (mode : Mode) (positive : 1 ≤ sides) (count left : Nat) (faces : Faces) :
    Countable sides (rollDice mode sides count left faces).1 ∧
      count ≤ (rollDice mode sides count left faces).1.length ∧
      (rollDice mode sides count left faces).1.length ≤ count + left := by
  have bursts := rollDice_bursts mode sides count left faces
  have length := bursts.length_eq
  have few := bursts.explosionsOf_le
  exact ⟨rollDice_forall (fun faces _ => ⟨face_le mode positive faces, rfl⟩) count left faces, by omega, by omega⟩

theorem rollDice_maximize (sides count : Nat) (faces : Faces) :
    rollDice .maximize sides count 0 faces = (List.replicate count ⟨sides, sides, true, false⟩, faces) := by
  induction count with
  | zero => rfl
  | succ count inductionHypothesis =>
      have split : rollDice .maximize sides (count + 1) 0 faces =
          (⟨sides, sides, true, false⟩ :: (rollDice .maximize sides count 0 faces).1,
            (rollDice .maximize sides count 0 faces).2) := rfl
      rw [split, inductionHypothesis, List.replicate_succ]

namespace DiceTerm

variable (term : DiceTerm)

/-- How many of the thrown dice count. -/
def counted (thrown : Nat) : Nat :=
  match term.selector with
  | none => thrown
  | some ⟨.keepHighest, count⟩ => min count thrown
  | some ⟨.keepLowest, count⟩ => min count thrown
  | some ⟨.dropHighest, count⟩ => thrown - count
  | some ⟨.dropLowest, count⟩ => thrown - count

/-- Explosions bring no more dice that count. -/
def isCapped : Bool :=
  term.counted (term.count + term.explosions .random) == term.counted term.count

theorem counted_mono {fewer more : Nat} (fewerFirst : fewer ≤ more) : term.counted fewer ≤ term.counted more := by
  unfold counted
  split <;> omega

/-- The dice of a roll before some of them are selected. -/
def thrownDice (mode : Mode) (faces : Faces) : List Die :=
  (rollDice mode term.sides term.count (term.explosions mode) faces).1

theorem roll_dice (mode : Mode) (faces : Faces) :
    (term.roll mode faces).1.dice =
      term.selector.elim (term.thrownDice mode faces) (·.mark (term.thrownDice mode faces)) := by
  obtain ⟨count, sides, selector, explodes⟩ := term
  cases selector <;> rfl

theorem length_dice (mode : Mode) (faces : Faces) :
    (term.roll mode faces).1.dice.length = (term.thrownDice mode faces).length := by
  rw [roll_dice]
  cases term.selector with
  | none => rfl
  | some selector => simp [Selector.mark]

/-- Selecting dice changes nothing but which of them count. -/
theorem dice_same (mode : Mode) (faces : Faces) :
    (term.roll mode faces).1.dice.map (fun die => (die.sides, die.value, die.exploded)) =
      (term.thrownDice mode faces).map fun die => (die.sides, die.value, die.exploded) := by
  rw [roll_dice]
  cases term.selector with
  | none => rfl
  | some selector => exact selector.mark_same _

theorem exists_thrown {term : DiceTerm} {die : Die} (member : die ∈ (term.roll mode faces).1.dice) :
    ∃ thrown ∈ term.thrownDice mode faces,
      (die.sides, die.value, die.exploded) = (thrown.sides, thrown.value, thrown.exploded) := by
  have listed : (die.sides, die.value, die.exploded) ∈
      (term.roll mode faces).1.dice.map fun die => (die.sides, die.value, die.exploded) :=
    List.mem_map_of_mem member
  rw [dice_same] at listed
  obtain ⟨thrown, there, same⟩ := List.mem_map.1 listed
  exact ⟨thrown, there, same.symm⟩

theorem countP_kept (positive : 1 ≤ term.sides) (mode : Mode) (faces : Faces) :
    (term.roll mode faces).1.dice.countP (·.kept) = term.counted (term.thrownDice mode faces).length := by
  have length := term.length_dice mode faces
  have all := (rollDice_countable mode positive term.count (term.explosions mode) faces).1
  rw [roll_dice] at length ⊢
  unfold counted
  cases chosen : term.selector with
  | none => exact List.countP_eq_length.2 fun die member => (all die member).2
  | some selector =>
      rw [chosen] at length
      have keeps := selector.mark_keeps (term.thrownDice mode faces)
      unfold Selector.Keeps at keeps
      change (selector.mark (term.thrownDice mode faces)).length = _ at length
      rw [length] at keeps
      obtain ⟨selection, count⟩ := selector
      cases selection with
      | keepHighest => exact keeps.many
      | keepLowest => exact keeps.many
      | dropHighest => exact keeps.many
      | dropLowest => exact keeps.many

/-- The sum of the dice that count if all of them show their highest faces. -/
def highest : Nat :=
  term.counted term.count * term.sides

theorem thrownDice_maximize (faces : Faces) :
    term.thrownDice .maximize faces = List.replicate term.count ⟨term.sides, term.sides, true, false⟩ := by
  have none : term.explosions .maximize = 0 := by
    rw [explosions]
    simp
  rw [thrownDice, none, rollDice_maximize]

theorem roll_maximize (positive : 1 ≤ term.sides) (faces : Faces) :
    (term.roll .maximize faces).1.total = term.highest ∧
      ∀ die ∈ (term.roll .maximize faces).1.dice, die.IsHighest := by
  have each : ∀ die ∈ (term.roll .maximize faces).1.dice, die.sides = term.sides ∧ die.IsHighest := by
    intro die member
    obtain ⟨thrown, there, same⟩ := exists_thrown member
    rw [thrownDice_maximize] at there
    obtain rfl := List.eq_of_mem_replicate there
    obtain ⟨sides, value, exploded⟩ : _ ∧ _ ∧ _ := by simpa using same
    exact ⟨sides, value.trans sides.symm, exploded⟩
  refine ⟨?_, fun die member => (each die member).2⟩
  have many := term.countP_kept positive .maximize faces
  rw [thrownDice_maximize, List.length_replicate, List.countP_eq_length_filter] at many
  have values : ∀ value ∈ (((term.roll .maximize faces).1.dice.filter (·.kept)).map (·.value)),
      value = term.sides := by
    intro value member
    obtain ⟨die, kept, rfl⟩ := List.mem_map.1 member
    obtain ⟨sides, shows, _⟩ := each die (List.mem_filter.1 kept).1
    exact shows.trans sides
  have sum := List.sum_eq_card_nsmul _ _ values
  rw [List.length_map, many, Nat.nsmul_eq_mul] at sum
  change ((keptSum (term.roll .maximize faces).1.dice : Nat) : Int) = _
  rw [keptSum, Number.total_eq_sum, sum, highest]

/-- No stream of faces exceeds the highest ones, unless it is by explosions. -/
theorem roll_le {term : DiceTerm} (positive : 1 ≤ term.sides) (capped : term.isCapped = true) (faces : Faces) :
    (term.roll .random faces).1.total ≤ term.highest := by
  have each : ∀ value ∈ ((term.roll .random faces).1.dice.filter (·.kept)).map (·.value),
      value ≤ term.sides := by
    intro value member
    obtain ⟨die, kept, rfl⟩ := List.mem_map.1 member
    obtain ⟨thrown, there, same⟩ := exists_thrown (List.mem_filter.1 kept).1
    obtain ⟨_, value, _⟩ : _ ∧ _ ∧ _ := by simpa using same
    rw [value]
    exact ((rollDice_countable _ positive _ _ _).1 thrown there).1
  have bound := Number.total_le each
  have many := term.countP_kept positive .random faces
  have few : (term.thrownDice .random faces).length ≤ term.count + term.explosions .random :=
    (rollDice_countable _ positive _ _ _).2.2
  have kept := (term.counted_mono few).trans_eq (eq_of_beq capped)
  rw [← many, List.countP_eq_length_filter] at kept
  rw [List.length_map] at bound
  change ((keptSum (term.roll .random faces).1.dice : Nat) : Int) ≤ _
  exact Int.ofNat_le.2 (bound.trans (Nat.mul_le_mul_right _ kept))

end DiceTerm

/-! Expressions -/

/-- The numbers that an expression can come to. -/
inductive Expr.Yields (mode : Mode) : Expr → Int → Prop where
  | constant {value : Nat} : Yields mode (.constant value) value
  | dice {term : DiceTerm} (faces : Faces) : Yields mode (.dice term) (term.roll mode faces).1.total
  | negate {inner : Expr} {value : Int} (yields : Yields mode inner value) : Yields mode (.negate inner) (-value)
  | group {inner : Expr} {value : Int} (yields : Yields mode inner value) : Yields mode (.group inner) value
  | binary {left right : Expr} {operation : Operation} {leftValue rightValue value : Int}
      (leftYields : Yields mode left leftValue) (rightYields : Yields mode right rightValue)
      (calculated : operation.apply leftValue rightValue = .ok value) :
      Yields mode (.binary left operation right) value

theorem exact_eq_ok {number value : Int} (fits : exact number = .ok value) : value = number := by
  unfold exact at fits
  split at fits
  · exact (Except.ok.inj fits).symm
  · cases fits

/-- What an operation gives is its value. Nothing is divided by zero. -/
theorem Operation.apply_eq_ok {operation : Operation} {left right value : Int}
    (calculated : operation.apply left right = .ok value) :
    value = operation.value left right ∧ (operation = .divide → right ≠ 0) := by
  cases operation with
  | divide =>
      unfold apply at calculated
      dsimp only at calculated
      split at calculated
      · cases calculated
      · next divisor => exact ⟨exact_eq_ok calculated, fun _ => divisor⟩
  | add => exact ⟨exact_eq_ok calculated, nofun⟩
  | subtract => exact ⟨exact_eq_ok calculated, nofun⟩
  | multiply => exact ⟨exact_eq_ok calculated, nofun⟩

theorem rolling_eq_ok {α β : Type} {first : Rolling α} {next : α → Rolling β} {value : β}
    (done : (first >>= next) faces = (.ok value, rest)) :
    ∃ middle between, first faces = (.ok middle, between) ∧ next middle between = (.ok value, rest) := by
  rcases made : first faces with ⟨error | middle, between⟩
  · rw [rolling_bind_error made] at done
    cases done
  · rw [rolling_bind_ok made] at done
    exact ⟨middle, between, rfl, done⟩

/-- A binary expression that can be rolled rolls its operands from left to right. -/
theorem Expr.roll_binary_eq_ok {left right : Expr} {operation : Operation} {outcome : Outcome}
    (rolled : Expr.roll mode (.binary left operation right) faces = (.ok outcome, rest)) :
    ∃ leftOutcome between rightOutcome, left.roll mode faces = (.ok leftOutcome, between) ∧
      right.roll mode between = (.ok rightOutcome, rest) ∧
      operation.apply leftOutcome.total rightOutcome.total = .ok outcome.total ∧
      outcome.dice = leftOutcome.dice ++ rightOutcome.dice := by
  obtain ⟨leftOutcome, between, first, rolled⟩ := rolling_eq_ok rolled
  obtain ⟨rightOutcome, behind, second, rolled⟩ := rolling_eq_ok rolled
  obtain ⟨total, _, calculated, rolled⟩ := rolling_eq_ok rolled
  cases rolled
  obtain rfl : behind = rest := congrArg (·.2) calculated
  exact ⟨leftOutcome, between, rightOutcome, first, second, congrArg (·.1) calculated, rfl⟩

theorem Expr.roll_yields {expr : Expr} {outcome : Outcome}
    (rolled : expr.roll mode faces = (.ok outcome, rest)) : expr.Yields mode outcome.total := by
  induction expr generalizing faces rest outcome with
  | constant value =>
      cases rolled
      exact .constant
  | dice term =>
      cases rolled
      exact .dice faces
  | negate inner inductionHypothesis =>
      obtain ⟨middle, between, first, rolled⟩ := rolling_eq_ok rolled
      obtain ⟨total, _, fits, rolled⟩ := rolling_eq_ok rolled
      cases rolled
      cases exact_eq_ok (congrArg (·.1) fits)
      exact .negate (inductionHypothesis first)
  | group inner inductionHypothesis =>
      obtain ⟨middle, between, first, rolled⟩ := rolling_eq_ok rolled
      have yields := inductionHypothesis first
      cases rolled
      exact .group yields
  | binary left operation right leftHypothesis rightHypothesis =>
      obtain ⟨_, _, _, first, second, calculated, _⟩ := Expr.roll_binary_eq_ok rolled
      exact .binary (leftHypothesis first) (rightHypothesis second) calculated

theorem Expr.Legal.left {left right : Expr} {operation : Operation}
    (legal : Expr.Legal (.binary left operation right)) : left.Legal :=
  fun term member => legal term (List.mem_append_left _ member)

theorem Expr.Legal.right {left right : Expr} {operation : Operation}
    (legal : Expr.Legal (.binary left operation right)) : right.Legal :=
  fun term member => legal term (List.mem_append_right _ member)

/-- What holds of the dice of every term holds of all dice of an expression. -/
theorem Expr.forall_dice {expr : Expr} {holds : Die → Prop}
    (each : ∀ term ∈ expr.terms, ∀ faces, ∀ die ∈ (term.roll mode faces).1.dice, holds die) {outcome : Outcome}
    (rolled : expr.roll mode faces = (.ok outcome, rest)) : ∀ die ∈ outcome.dice, holds die := by
  induction expr generalizing faces rest outcome with
  | constant value =>
      cases rolled
      exact fun die member => absurd member List.not_mem_nil
  | dice term =>
      cases rolled
      exact each term (List.mem_singleton_self term) faces
  | negate inner inductionHypothesis =>
      obtain ⟨middle, between, first, rolled⟩ := rolling_eq_ok rolled
      have held := inductionHypothesis each first
      obtain ⟨total, _, fits, rolled⟩ := rolling_eq_ok rolled
      cases rolled
      exact held
  | group inner inductionHypothesis =>
      obtain ⟨middle, between, first, rolled⟩ := rolling_eq_ok rolled
      have held := inductionHypothesis each first
      cases rolled
      exact held
  | binary left operation right leftHypothesis rightHypothesis =>
      obtain ⟨_, _, _, first, second, _, dice⟩ := Expr.roll_binary_eq_ok rolled
      have leftHeld := leftHypothesis (fun term member => each term (List.mem_append_left _ member)) first
      have rightHeld := rightHypothesis (fun term member => each term (List.mem_append_right _ member)) second
      rw [dice]
      exact List.forall_mem_append.2 ⟨leftHeld, rightHeld⟩

/-- All dice of an expression show their highest faces if they are rolled so. -/
theorem Expr.roll_maximize {expr : Expr} (legal : expr.Legal) {outcome : Outcome}
    (rolled : expr.roll .maximize faces = (.ok outcome, rest)) : ∀ die ∈ outcome.dice, die.IsHighest :=
  Expr.forall_dice (fun term listed faces => (term.roll_maximize (legal term listed).positive faces).2) rolled

namespace Expr

/-- The value is never negative, whatever the dice show. -/
def IsNatural (expr : Expr) : Prop :=
  ∀ mode value, expr.Yields mode value → 0 ≤ value

/-- The value of a binary expression follows from those of its operands, and nothing is divided by zero. -/
theorem Yields.operands {left right : Expr} {operation : Operation} {value : Int}
    (yields : Yields mode (.binary left operation right) value) :
    ∃ leftValue rightValue, left.Yields mode leftValue ∧ right.Yields mode rightValue ∧
      value = operation.value leftValue rightValue ∧ (operation = .divide → rightValue ≠ 0) := by
  cases yields with
  | binary leftYields rightYields calculated =>
      exact ⟨_, _, leftYields, rightYields, Operation.apply_eq_ok calculated⟩

/-- Without dice there is one value, however the faces are chosen. -/
theorem Yields.unique {other : Mode} {expr : Expr} {value again : Int} (yields : expr.Yields mode value)
    (diceless : expr.hasDice = false) (yieldsToo : expr.Yields other again) : again = value := by
  induction yields generalizing again with
  | constant =>
      cases yieldsToo
      rfl
  | dice faces => cases diceless
  | negate yields inductionHypothesis =>
      cases yieldsToo with
      | negate more => rw [inductionHypothesis diceless more]
  | group yields inductionHypothesis =>
      cases yieldsToo with
      | group more => exact inductionHypothesis diceless more
  | binary leftYields rightYields calculated leftHypothesis rightHypothesis =>
      cases yieldsToo with
      | binary leftMore rightMore recalculated =>
          obtain ⟨leftDiceless, rightDiceless⟩ := Bool.or_eq_false_iff.1 diceless
          rw [leftHypothesis leftDiceless leftMore, rightHypothesis rightDiceless rightMore, calculated]
            at recalculated
          exact (Except.ok.inj recalculated).symm

end Expr

/-- Which way a value goes if dice show higher faces. -/
inductive Trend where
  | rising
  | falling
deriving DecidableEq, Repr

namespace Trend

def opposite : Trend → Trend
  | .rising => .falling
  | .falling => .rising

/-- The value of the highest faces is the greatest one, or else the least one. -/
def Bounds (trend : Trend) (value peak : Int) : Prop :=
  match trend with
  | .rising => value ≤ peak
  | .falling => peak ≤ value

variable {trend : Trend} {left right leftPeak rightPeak : Int}

theorem Bounds.refl (trend : Trend) (value : Int) : trend.Bounds value value := by
  cases trend <;> exact Int.le_refl value

theorem Bounds.neg (bounds : trend.opposite.Bounds left leftPeak) : trend.Bounds (-left) (-leftPeak) := by
  cases trend <;> exact Int.neg_le_neg bounds

theorem Bounds.add (bounds : trend.Bounds left leftPeak) (boundsToo : trend.Bounds right rightPeak) :
    trend.Bounds (left + right) (leftPeak + rightPeak) := by
  cases trend <;> exact Int.add_le_add bounds boundsToo

theorem Bounds.mul (bounds : trend.Bounds left leftPeak) (boundsToo : trend.Bounds right rightPeak)
    (leftNonneg : 0 ≤ left) (rightNonneg : 0 ≤ right) (leftPeakNonneg : 0 ≤ leftPeak)
    (rightPeakNonneg : 0 ≤ rightPeak) : trend.Bounds (left * right) (leftPeak * rightPeak) := by
  cases trend with
  | rising => exact Int.mul_le_mul bounds boundsToo rightNonneg leftPeakNonneg
  | falling => exact Int.mul_le_mul bounds boundsToo rightPeakNonneg leftNonneg

theorem Bounds.mul_right (bounds : trend.Bounds left leftPeak) (nonneg : 0 ≤ right) :
    trend.Bounds (left * right) (leftPeak * right) := by
  cases trend <;> exact Int.mul_le_mul_of_nonneg_right bounds nonneg

theorem Bounds.tdiv_right (bounds : trend.Bounds left leftPeak) (positive : 0 < right) :
    trend.Bounds (left.tdiv right) (leftPeak.tdiv right) := by
  cases trend <;> exact Int.tdiv_le_tdiv positive bounds

/-- A smaller divisor leaves a greater quotient. -/
theorem tdiv_le_tdiv_left {number divisor smaller : Int} (nonneg : 0 ≤ number) (positive : 0 < smaller)
    (below : smaller ≤ divisor) : number.tdiv divisor ≤ number.tdiv smaller := by
  obtain ⟨number, rfl⟩ := Int.eq_ofNat_of_zero_le nonneg
  obtain ⟨smaller, rfl⟩ := Int.eq_ofNat_of_zero_le positive.le
  obtain ⟨divisor, rfl⟩ := Int.eq_ofNat_of_zero_le (positive.le.trans below)
  rw [← Int.ofNat_tdiv, ← Int.ofNat_tdiv]
  exact Int.ofNat_le.2 (Nat.div_le_div_left (Int.ofNat_le.1 below) (Int.natCast_pos.1 positive))

theorem Bounds.tdiv (bounds : trend.Bounds left leftPeak) (boundsToo : trend.opposite.Bounds right rightPeak)
    (leftNonneg : 0 ≤ left) (leftPeakNonneg : 0 ≤ leftPeak) (positive : 0 < right)
    (peakPositive : 0 < rightPeak) : trend.Bounds (left.tdiv right) (leftPeak.tdiv rightPeak) := by
  cases trend with
  | rising => exact (Int.tdiv_le_tdiv positive bounds).trans (tdiv_le_tdiv_left leftPeakNonneg peakPositive boundsToo)
  | falling => exact (Int.tdiv_le_tdiv peakPositive bounds).trans (tdiv_le_tdiv_left leftNonneg positive boundsToo)

end Trend

/-- The value of an expression goes one way with the faces of all dice. Factors and divisors are never negative, and
so is what is multiplied or divided if both operands have dice. -/
inductive Expr.Follows : Trend → Expr → Prop where
  | diceless {trend : Trend} {expr : Expr} (diceless : expr.hasDice = false) : Follows trend expr
  | dice {term : DiceTerm} (capped : term.isCapped = true) : Follows .rising (.dice term)
  | negate {trend : Trend} {inner : Expr} (follows : Follows trend.opposite inner) : Follows trend (.negate inner)
  | group {trend : Trend} {inner : Expr} (follows : Follows trend inner) : Follows trend (.group inner)
  | add {trend : Trend} {left right : Expr} (leftFollows : Follows trend left) (rightFollows : Follows trend right) :
      Follows trend (.binary left .add right)
  | subtract {trend : Trend} {left right : Expr} (leftFollows : Follows trend left)
      (rightFollows : Follows trend.opposite right) : Follows trend (.binary left .subtract right)
  | multiply {trend : Trend} {left right : Expr} (leftFollows : Follows trend left)
      (rightFollows : Follows trend right) (leftNatural : left.IsNatural)
      (rightNatural : right.IsNatural) : Follows trend (.binary left .multiply right)
  | factorBehind {trend : Trend} {left right : Expr} (leftFollows : Follows trend left)
      (diceless : right.hasDice = false) (natural : right.IsNatural) :
      Follows trend (.binary left .multiply right)
  | factorBefore {trend : Trend} {left right : Expr} (diceless : left.hasDice = false)
      (natural : left.IsNatural) (rightFollows : Follows trend right) :
      Follows trend (.binary left .multiply right)
  | divide {trend : Trend} {left right : Expr} (leftFollows : Follows trend left)
      (rightFollows : Follows trend.opposite right) (leftNatural : left.IsNatural)
      (rightNatural : right.IsNatural) : Follows trend (.binary left .divide right)
  | divisor {trend : Trend} {left right : Expr} (leftFollows : Follows trend left)
      (diceless : right.hasDice = false) (natural : right.IsNatural) :
      Follows trend (.binary left .divide right)

/-- No stream of faces leads beyond the value of the highest ones, in the way in which the expression goes. The
induction is on why it goes this way. -/
theorem Expr.Follows.bounds {trend : Trend} {expr : Expr} (follows : expr.Follows trend) (legal : expr.Legal)
    {value peak : Int} (yields : expr.Yields .random value) (peaks : expr.Yields .maximize peak) :
    trend.Bounds value peak := by
  induction follows generalizing value peak with
  | diceless diceless =>
      rw [yields.unique diceless peaks]
      exact .refl _ _
  | @dice term capped =>
      have positive := (legal term (List.mem_singleton_self term)).positive
      cases yields with
      | dice faces =>
          cases peaks with
          | dice other =>
              rw [(term.roll_maximize positive other).1]
              exact DiceTerm.roll_le positive capped faces
  | negate follows inductionHypothesis =>
      cases yields with
      | negate yields =>
          cases peaks with
          | negate peaks => exact (inductionHypothesis legal yields peaks).neg
  | group follows inductionHypothesis =>
      cases yields with
      | group yields =>
          cases peaks with
          | group peaks => exact inductionHypothesis legal yields peaks
  | add leftFollows rightFollows leftHypothesis rightHypothesis =>
      obtain ⟨left, right, leftYields, rightYields, rfl, _⟩ := yields.operands
      obtain ⟨leftPeak, rightPeak, leftPeaks, rightPeaks, rfl, _⟩ := peaks.operands
      exact (leftHypothesis legal.left leftYields leftPeaks).add
        (rightHypothesis legal.right rightYields rightPeaks)
  | subtract leftFollows rightFollows leftHypothesis rightHypothesis =>
      obtain ⟨left, right, leftYields, rightYields, rfl, _⟩ := yields.operands
      obtain ⟨leftPeak, rightPeak, leftPeaks, rightPeaks, rfl, _⟩ := peaks.operands
      exact (leftHypothesis legal.left leftYields leftPeaks).add
        (rightHypothesis legal.right rightYields rightPeaks).neg
  | multiply leftFollows rightFollows leftNatural rightNatural leftHypothesis rightHypothesis =>
      obtain ⟨left, right, leftYields, rightYields, rfl, _⟩ := yields.operands
      obtain ⟨leftPeak, rightPeak, leftPeaks, rightPeaks, rfl, _⟩ := peaks.operands
      exact (leftHypothesis legal.left leftYields leftPeaks).mul
        (rightHypothesis legal.right rightYields rightPeaks) (leftNatural _ _ leftYields)
        (rightNatural _ _ rightYields) (leftNatural _ _ leftPeaks) (rightNatural _ _ rightPeaks)
  | factorBehind leftFollows diceless natural inductionHypothesis =>
      obtain ⟨left, right, leftYields, rightYields, rfl, _⟩ := yields.operands
      obtain ⟨leftPeak, rightPeak, leftPeaks, rightPeaks, rfl, _⟩ := peaks.operands
      rw [rightYields.unique diceless rightPeaks]
      exact (inductionHypothesis legal.left leftYields leftPeaks).mul_right (natural _ _ rightYields)
  | factorBefore diceless natural rightFollows inductionHypothesis =>
      obtain ⟨left, right, leftYields, rightYields, rfl, _⟩ := yields.operands
      obtain ⟨leftPeak, rightPeak, leftPeaks, rightPeaks, rfl, _⟩ := peaks.operands
      rw [leftYields.unique diceless leftPeaks]
      simp only [Operation.value, Int.mul_comm left]
      exact (inductionHypothesis legal.right rightYields rightPeaks).mul_right (natural _ _ leftYields)
  | divide leftFollows rightFollows leftNatural rightNatural leftHypothesis rightHypothesis =>
      obtain ⟨left, right, leftYields, rightYields, rfl, divides⟩ := yields.operands
      obtain ⟨leftPeak, rightPeak, leftPeaks, rightPeaks, rfl, peakDivides⟩ := peaks.operands
      have positive := (rightNatural _ _ rightYields).lt_of_ne (divides rfl).symm
      have peakPositive := (rightNatural _ _ rightPeaks).lt_of_ne (peakDivides rfl).symm
      exact (leftHypothesis legal.left leftYields leftPeaks).tdiv
        (rightHypothesis legal.right rightYields rightPeaks) (leftNatural _ _ leftYields)
        (leftNatural _ _ leftPeaks) positive peakPositive
  | divisor leftFollows diceless natural inductionHypothesis =>
      obtain ⟨left, right, leftYields, rightYields, rfl, divides⟩ := yields.operands
      obtain ⟨leftPeak, rightPeak, leftPeaks, rightPeaks, rfl, _⟩ := peaks.operands
      rw [rightYields.unique diceless rightPeaks]
      have positive := (natural _ _ rightYields).lt_of_ne (divides rfl).symm
      exact (inductionHypothesis legal.left leftYields leftPeaks).tdiv_right positive

/-- A text is read as one expression, so each of its totals is a value of it. -/
theorem roll_eq_ok {text : String} {result : Result} (rolled : roll text mode faces = (.ok result, rest)) :
    ∃ expr outcome, parse text.toList = .ok expr ∧ expr.roll mode faces = (.ok outcome, rest) ∧
      result.total = outcome.total ∧ result.dice = outcome.dice := by
  obtain ⟨expr, _, parsed, rolled⟩ := rolling_eq_ok rolled
  have parses := congrArg (·.1) parsed
  cases congrArg (·.2) parsed
  obtain ⟨outcome, between, made, rolled⟩ := rolling_eq_ok rolled
  cases rolled
  exact ⟨expr, outcome, parses, made, rfl, rfl⟩

/-- With all dice on their highest faces a text comes to at least what any stream of faces gives, if its value rises
with the faces of all dice. -/
theorem roll_le_maximize {text : String} {expr : Expr} (parsed : parse text.toList = .ok expr)
    (rises : expr.Follows .rising) {peak : Result} (peaks : roll text .maximize faces = (.ok peak, rest))
    {other left : Faces} {result : Result} (rolled : roll text .random other = (.ok result, left)) :
    result.total ≤ peak.total := by
  obtain ⟨_, _, peakParsed, peakMade, peakTotal, _⟩ := roll_eq_ok peaks
  obtain ⟨_, _, otherParsed, made, total, _⟩ := roll_eq_ok rolled
  cases parsed.symm.trans peakParsed
  cases parsed.symm.trans otherParsed
  rw [total, peakTotal]
  exact rises.bounds (parse_legal parsed) (Expr.roll_yields made) (Expr.roll_yields peakMade)

theorem roll_maximize_dice {text : String} {peak : Result}
    (peaks : roll text .maximize faces = (.ok peak, rest)) : ∀ die ∈ peak.dice, die.IsHighest := by
  obtain ⟨_, _, parsed, made, _, dice⟩ := roll_eq_ok peaks
  rw [dice]
  exact Expr.roll_maximize (parse_legal parsed) made

end Tabletop.Notation
