/-
This file proves that the lowest and the highest faces bound what rolls come to.

An expression of constants, dice that do not explode, groups, sums and products comes to no more with lower faces. None
of its values is negative, so what fits into 64 bits with higher faces also fits with lower ones.
-/

import Tabletop.Proofs.Notation.Maximum

namespace Tabletop.Notation

variable {mode lower upper : Mode} {faces other rest : Faces} {sides : Nat}

/-- Faces that one mode chooses are never above those that the other one chooses. -/
inductive Mode.Below : Mode → Mode → Prop where
  | lowest : Below .minimize .random
  | highest : Below .random .maximize

/-! Terms -/

theorem one_le_face (mode : Mode) (positive : 1 ≤ sides) (faces : Faces) : 1 ≤ (face mode sides faces).1 := by
  cases mode with
  | random => exact Nat.le_max_left 1 _
  | maximize => exact positive
  | minimize => exact Nat.le_refl 1

namespace DiceTerm

variable {term : DiceTerm}

/-- What holds of all faces that can be thrown holds of all faces that count. -/
theorem forall_counted (term : DiceTerm) (mode : Mode) (holds : Nat → Prop)
    (each : ∀ faces, holds (face mode term.sides faces).1) (faces : Faces) :
    ∀ value ∈ ((term.roll mode faces).1.dice.filter (·.kept)).map (·.value), holds value := by
  intro value member
  obtain ⟨die, kept, rfl⟩ := List.mem_map.1 member
  obtain ⟨thrown, there, same⟩ := exists_thrown (List.mem_filter.1 kept).1
  have all : ∀ die ∈ term.thrownDice mode faces, holds die.value :=
    rollDice_forall (fun faces _ => each faces) _ _ faces
  have shown : die.value = thrown.value := congrArg (·.2.1) same
  rw [shown]
  exact all thrown there

theorem length_counted (positive : 1 ≤ term.sides) (mode : Mode) (faces : Faces) :
    (((term.roll mode faces).1.dice.filter (·.kept)).map (·.value)).length =
      term.counted (term.thrownDice mode faces).length := by
  rw [List.length_map, ← List.countP_eq_length_filter, term.countP_kept positive]

/-- Every die that counts shows at least a one. -/
theorem counted_le_roll (positive : 1 ≤ term.sides) (mode : Mode) (faces : Faces) :
    term.counted term.count ≤ (term.roll mode faces).1.total := by
  have ones := List.card_nsmul_le_sum _ 1 (term.forall_counted mode (1 ≤ ·) (one_le_face mode positive) faces)
  have thrown : term.count ≤ (term.thrownDice mode faces).length := (rollDice_countable mode positive _ _ faces).2.1
  have more := term.counted_mono thrown
  rw [length_counted positive, Nat.nsmul_eq_mul, Nat.mul_one, ← Number.total_eq_sum] at ones
  change _ ≤ ((keptSum (term.roll mode faces).1.dice : Nat) : Int)
  exact Int.ofNat_le.2 (more.trans ones)

/-- With the lowest faces every die that counts shows a one. -/
theorem roll_minimize_le (positive : 1 ≤ term.sides) (faces : Faces) :
    (term.roll .minimize faces).1.total ≤ term.counted term.count := by
  have ones := Number.total_le (term.forall_counted .minimize (· ≤ 1) (fun _ => Nat.le_refl 1) faces)
  have silent : term.explosions .minimize = 0 := by
    rw [explosions]
    simp
  have few : (term.thrownDice .minimize faces).length ≤ term.count + term.explosions .minimize :=
    (rollDice_countable .minimize positive _ _ faces).2.2
  have thrown : (term.thrownDice .minimize faces).length ≤ term.count := by omega
  rw [length_counted positive, Nat.mul_one] at ones
  change ((keptSum (term.roll .minimize faces).1.dice : Nat) : Int) ≤ _
  exact Int.ofNat_le.2 (ones.trans (term.counted_mono thrown))

theorem isCapped_of_silent (silent : term.explode = false) : term.isCapped = true := by
  have none : term.explosions .random = 0 := by
    rw [explosions, silent]
    rfl
  rw [isCapped, none]
  exact beq_self_eq_true _

/-- Lower faces come to no more. Only the highest faces could be exceeded, by dice that explode. -/
theorem roll_below (below : lower.Below upper) (positive : 1 ≤ term.sides) (silent : term.explode = false)
    (faces other : Faces) : (term.roll lower faces).1.total ≤ (term.roll upper other).1.total := by
  cases below with
  | lowest => exact (roll_minimize_le positive faces).trans (counted_le_roll positive .random other)
  | highest =>
      rw [(term.roll_maximize positive other).1]
      exact roll_le positive (isCapped_of_silent silent) faces

end DiceTerm

/-! Expressions -/

/-- A number below another one that is not negative fits if the other one does. -/
theorem exact_below {number greater peak : Int} (nonneg : 0 ≤ number) (below : number ≤ greater)
    (fits : exact greater = .ok peak) : exact number = .ok number ∧ number ≤ peak := by
  obtain rfl := exact_eq_ok fits
  refine ⟨if_pos ?_, below⟩
  unfold exact at fits
  split at fits
  · next word =>
      rw [Number.isWord_iff, Number.minWord, Number.maxWord] at word ⊢
      omega
  · cases fits

/-- Constants, dice that do not explode, and groups, sums and products of such expressions. -/
inductive Expr.Rises : Expr → Prop where
  | constant (value : Nat) : Rises (.constant value)
  | dice {term : DiceTerm} (silent : term.explode = false) : Rises (.dice term)
  | group {inner : Expr} (rises : Rises inner) : Rises (.group inner)
  | sum {left right : Expr} (leftRises : Rises left) (rightRises : Rises right) : Rises (.binary left .add right)
  | product {left right : Expr} (leftRises : Rises left) (rightRises : Rises right) :
      Rises (.binary left .multiply right)

/-- The expression can be rolled, to a total from zero to a bound. -/
def Expr.StaysBelow (expr : Expr) (mode : Mode) (bound : Int) : Prop :=
  ∀ faces, ∃ outcome rest, expr.roll mode faces = (.ok outcome, rest) ∧ 0 ≤ outcome.total ∧ outcome.total ≤ bound

/-- An operation on numbers that stay below others stays below what it makes of these, if it is monotone. -/
theorem Expr.StaysBelow.binary {left right : Expr} {operation : Operation} {leftPeak rightPeak peak : Int}
    (leftBelow : left.StaysBelow mode leftPeak) (rightBelow : right.StaysBelow mode rightPeak)
    (monotone : ∀ first second, 0 ≤ first → first ≤ leftPeak → 0 ≤ second → second ≤ rightPeak →
      ∃ value, operation.apply first second = .ok value ∧ 0 ≤ value ∧ value ≤ peak) :
    Expr.StaysBelow (.binary left operation right) mode peak := by
  intro faces
  obtain ⟨leftOutcome, between, first, leftNonneg, leftBound⟩ := leftBelow faces
  obtain ⟨rightOutcome, behind, second, rightNonneg, rightBound⟩ := rightBelow between
  obtain ⟨value, calculated, nonneg, bound⟩ := monotone _ _ leftNonneg leftBound rightNonneg rightBound
  refine ⟨⟨value, leftOutcome.working ++ operation.token.text ++ rightOutcome.working,
    leftOutcome.dice ++ rightOutcome.dice⟩, behind, ?_, nonneg, bound⟩
  unfold Expr.roll
  rw [rolling_bind_ok first, rolling_bind_ok second, calculated]
  rfl

/-- With lower faces the expression can be rolled, and it comes to no more. The induction is on how it is built. -/
theorem Expr.Rises.staysBelow {expr : Expr} (rises : expr.Rises) (legal : expr.Legal) (below : lower.Below upper)
    {peak : Outcome} (peaks : expr.roll upper other = (.ok peak, rest)) : expr.StaysBelow lower peak.total := by
  induction rises generalizing other rest peak with
  | constant value =>
      cases peaks
      exact fun faces => ⟨_, faces, rfl, Int.natCast_nonneg value, Int.le_refl _⟩
  | @dice term silent =>
      cases peaks
      have positive := (legal term (List.mem_singleton_self term)).positive
      exact fun faces => ⟨(term.roll lower faces).1, (term.roll lower faces).2, rfl, Int.natCast_nonneg _,
        DiceTerm.roll_below below positive silent faces other⟩
  | group rises inductionHypothesis =>
      obtain ⟨middle, between, first, peaks⟩ := rolling_eq_ok peaks
      have stays := inductionHypothesis legal first
      cases peaks
      intro faces
      obtain ⟨outcome, behind, rolled, nonneg, bound⟩ := stays faces
      refine ⟨{ outcome with working := ['('] ++ outcome.working ++ [')'] }, behind, ?_, nonneg, bound⟩
      unfold Expr.roll
      rw [rolling_bind_ok rolled]
      rfl
  | sum leftRises rightRises leftHypothesis rightHypothesis =>
      obtain ⟨leftPeak, _, rightPeak, first, second, calculated, _⟩ := Expr.roll_binary_eq_ok peaks
      refine (leftHypothesis legal.left first).binary (rightHypothesis legal.right second) ?_
      intro left right leftNonneg leftBound rightNonneg rightBound
      have nonneg : 0 ≤ left + right := Int.add_nonneg leftNonneg rightNonneg
      have bound : left + right ≤ leftPeak.total + rightPeak.total := Int.add_le_add leftBound rightBound
      obtain ⟨fits, within⟩ := exact_below nonneg bound calculated
      exact ⟨_, fits, nonneg, within⟩
  | product leftRises rightRises leftHypothesis rightHypothesis =>
      obtain ⟨leftPeak, _, rightPeak, first, second, calculated, _⟩ := Expr.roll_binary_eq_ok peaks
      refine (leftHypothesis legal.left first).binary (rightHypothesis legal.right second) ?_
      intro left right leftNonneg leftBound rightNonneg rightBound
      have nonneg : 0 ≤ left * right := Int.mul_nonneg leftNonneg rightNonneg
      have bound : left * right ≤ leftPeak.total * rightPeak.total :=
        Int.mul_le_mul leftBound rightBound rightNonneg (leftNonneg.trans leftBound)
      obtain ⟨fits, within⟩ := exact_below nonneg bound calculated
      exact ⟨_, fits, nonneg, within⟩

/-! Texts -/

/-- A text that can be rolled with the highest faces can be rolled with the lowest ones and with those of every stream,
and the totals are in this order, if the text says nothing but constants, dice that do not explode, groups, sums and
products. -/
theorem roll_between {text : String} {expr : Expr} (parsed : parse text.toList = .ok expr) (rises : expr.Rises)
    {peak : Result} (peaks : (roll text .maximize other).1 = .ok peak) (faces lowest : Faces) :
    ∃ least result, (roll text .minimize lowest).1 = .ok least ∧ (roll text .random faces).1 = .ok result ∧
      least.total ≤ result.total ∧ result.total ≤ peak.total := by
  have legal := parse_legal parsed
  obtain ⟨_, highest, same, made, peakTotal, _⟩ := roll_eq_ok (Prod.ext peaks rfl)
  cases parsed.symm.trans same
  obtain ⟨outcome, _, rolled, _, below⟩ := rises.staysBelow legal .highest made faces
  obtain ⟨leastOutcome, _, leastRolled, _, leastBelow⟩ := rises.staysBelow legal .lowest rolled lowest
  rw [roll_of_parse parsed, roll_of_parse parsed, rolled, leastRolled, peakTotal]
  exact ⟨_, _, rfl, rfl, leastBelow, below⟩

/-- The lower one of two d20 three times, and a d6. -/
theorem roll_between_lower :
    let text := "3*2d20kl1+1d6"
    ∃ expr peak least result, parse text.toList = .ok expr ∧ expr.Rises ∧
      (roll text .maximize (.constant 1)).1 = .ok peak ∧ peak.total = 66 ∧
      (roll text .minimize (.constant 9)).1 = .ok least ∧ (roll text .random (.cycle #[7, 4, 5])).1 = .ok result ∧
      least.total ≤ result.total ∧ result.total ≤ peak.total := by
  intro text
  let pair : DiceTerm := ⟨2, 20, some ⟨.keepLowest, 1⟩, false⟩
  have parsed : parse text.toList =
      .ok (.binary (.binary (.constant 3) .multiply (.dice pair)) .add (.dice ⟨1, 6, none, false⟩)) := by
    decide +kernel
  have rises : Expr.Rises (.binary (.binary (.constant 3) .multiply (.dice pair)) .add (.dice ⟨1, 6, none, false⟩)) :=
    .sum (.product (.constant 3) (.dice rfl)) (.dice rfl)
  let thrown : List Die := [⟨20, 20, true, false⟩, ⟨20, 20, true, false⟩]
  let marked : List Die := [⟨20, 20, false, false⟩, ⟨20, 20, true, false⟩]
  have places : placesByFace thrown = [0, 1] := by
    rw [placesByFace, List.mergeSort_of_pairwise (by decide)]
    rfl
  have marks : Selector.mark ⟨.keepLowest, 1⟩ thrown = marked := by
    rw [Selector.mark, Selector.keptPlaces, places]
    rfl
  have highest : Expr.roll .maximize (.dice pair) (.constant 1) =
      (.ok ⟨20, "[20d, 20]".toList, marked⟩, .constant 1) := by
    have spelled : diceText marked = "[20d, 20]".toList := by decide +kernel
    let outcome (dice : List Die) : Outcome := ⟨keptSum dice, diceText dice, dice⟩
    have rolled : Expr.roll .maximize (.dice pair) (.constant 1) = (.ok (outcome marked), .constant 1) :=
      congrArg (fun dice => (Except.ok (outcome dice), Faces.constant 1)) marks
    rw [rolled, ← spelled]
    rfl
  have tripled : Expr.roll .maximize (.binary (.constant 3) .multiply (.dice pair)) (.constant 1) =
      (.ok ⟨60, "3*[20d, 20]".toList, marked⟩, .constant 1) := by
    unfold Expr.roll
    rw [rolling_bind_ok (rfl : Expr.roll .maximize (.constant 3) (.constant 1) = _), rolling_bind_ok highest]
    rfl
  have peaks : ∃ peak, (roll text .maximize (.constant 1)).1 = .ok peak ∧ peak.total = 66 := by
    rw [roll_of_parse parsed]
    unfold Expr.roll
    rw [rolling_bind_ok tripled]
    exact ⟨_, rfl, rfl⟩
  obtain ⟨peak, peaks, total⟩ := peaks
  obtain ⟨least, result, minimized, rolled, above, below⟩ :=
    roll_between parsed rises peaks (.cycle #[7, 4, 5]) (.constant 9)
  exact ⟨_, peak, least, result, parsed, rises, peaks, total, minimized, rolled, above, below⟩

end Tabletop.Notation
