/-
This file proves that under the deciders for percentile rolls a lower roll is never worse, when rules compute with exact
fractions.
-/

import Mathlib.Algebra.Order.Field.Rat
import Mathlib.Tactic.Linarith
import Tabletop.Proofs.Decider.Decision

namespace Tabletop

/-- Exact fractions. The quotient of a division by zero is zero. -/
def Rule.exact : Rule.Arithmetic ℚ where
  ofDecimal value := value.digits * 10 ^ value.exponent
  ofInt value := value
  isTruthy number := number != 0
  negate number := -number
  add left right := left + right
  subtract left right := left - right
  multiply left right := left * right
  divide left right := left / right
  remainder left right := left - right * ((left / right).num.tdiv (left / right).den)
  equal left right := left == right
  less left right := left < right
  lessEqual left right := left ≤ right

namespace Rule.Expr

variable {attempt : Attempt} {left right : Expr} {first second : ℚ}

/-- The expression computes a number from an attempt. -/
def Computes (expr : Expr) (attempt : Attempt) (number : ℚ) : Prop :=
  expr.eval exact (attempt.bindings exact) = .ok (.number number)

/-- The expression tells whether a condition holds. -/
def Tells (expr : Expr) (attempt : Attempt) (condition : Prop) [Decidable condition] : Prop :=
  expr.eval exact (attempt.bindings exact) = .ok (.truth (decide condition))

/-- An operation that does not stop at its left operand is applied to both. -/
theorem eval_binary {operation : Operation} {before behind : Value ℚ} {bindings : Variables ℚ}
    (leftIs : left.eval exact bindings = .ok before) (rightIs : right.eval exact bindings = .ok behind)
    (goes : operation.stopsAt exact before = false) :
    (Expr.binary left operation right).eval exact bindings = .ok (operation.apply exact before behind) := by
  simp only [eval, leftIs, rightIs, bind, Except.bind, goes]
  rfl

theorem computes_roll : Computes (.reference "roll") attempt attempt.roll := rfl

theorem computes_target : Computes (.reference "targetValue") attempt attempt.target := rfl

theorem computes_base : Computes (.reference "baseValue") attempt attempt.base := rfl

theorem computes_number (digits : Nat) : Computes (.number ⟨digits, 0⟩) attempt digits := by
  simp [Computes, eval, exact]

theorem Computes.divide (leftIs : left.Computes attempt first) (rightIs : right.Computes attempt second) :
    (binary left .divide right).Computes attempt (first / second) :=
  eval_binary leftIs rightIs rfl

theorem Computes.equal (leftIs : left.Computes attempt first) (rightIs : right.Computes attempt second) :
    (binary left .equal right).Tells attempt (first = second) :=
  eval_binary leftIs rightIs rfl

theorem Computes.less (leftIs : left.Computes attempt first) (rightIs : right.Computes attempt second) :
    (binary left .less right).Tells attempt (first < second) :=
  eval_binary leftIs rightIs rfl

theorem Computes.lessEqual (leftIs : left.Computes attempt first) (rightIs : right.Computes attempt second) :
    (binary left .lessEqual right).Tells attempt (first ≤ second) :=
  eval_binary leftIs rightIs rfl

theorem Computes.greater (leftIs : left.Computes attempt first) (rightIs : right.Computes attempt second) :
    (binary left .greater right).Tells attempt (second < first) :=
  eval_binary leftIs rightIs rfl

theorem Computes.greaterEqual (leftIs : left.Computes attempt first) (rightIs : right.Computes attempt second) :
    (binary left .greaterEqual right).Tells attempt (second ≤ first) :=
  eval_binary leftIs rightIs rfl

variable {condition other : Prop} [Decidable condition] [Decidable other]

theorem Tells.and (leftTells : left.Tells attempt condition) (rightTells : right.Tells attempt other) :
    (binary left .and right).Tells attempt (condition ∧ other) := by
  by_cases holds : condition
  · have goes : Operation.and.stopsAt exact (.truth (decide condition)) = false := by
      simp [Operation.stopsAt, Value.isTruthy, holds]
    rw [Tells, eval_binary leftTells rightTells goes]
    simp [Operation.apply, holds]
  · rw [Tells] at leftTells ⊢
    simp [eval, leftTells, bind, Except.bind, Operation.stopsAt, Value.isTruthy, holds, pure, Except.pure]

theorem Tells.choice {question : Expr} {asked : Prop} [Decidable asked]
    (questionTells : question.Tells attempt asked) (leftTells : left.Tells attempt condition)
    (rightTells : right.Tells attempt other) :
    (Expr.choice question left right).Tells attempt (if asked then condition else other) := by
  rw [Tells] at questionTells leftTells rightTells ⊢
  by_cases holds : asked
  · simp [eval, questionTells, leftTells, bind, Except.bind, Value.isTruthy, holds]
  · simp [eval, questionTells, rightTells, bind, Except.bind, Value.isTruthy, holds]

end Rule.Expr

namespace DeciderRule

open Rule.Expr

variable {attempt : Attempt} {level : Level}

/-- The rules of the embedded deciders with the trees that they are read as. -/
def trees : List (String × Rule.Expr) :=
  let roll := reference "roll"
  let target := reference "targetValue"
  let whole (digits : Nat) := number ⟨digits, 0⟩
  [("roll == 100", binary roll .equal (whole 100)),
    ("roll == 1", binary roll .equal (whole 1)),
    ("roll > targetValue", binary roll .greater target),
    ("roll <= targetValue", binary roll .lessEqual target),
    ("roll <= targetValue / 2", binary roll .lessEqual (binary target .divide (whole 2))),
    ("roll <= targetValue / 5", binary roll .lessEqual (binary target .divide (whole 5))),
    ("roll >= 96 && roll > targetValue",
      binary (binary roll .greaterEqual (whole 96)) .and (binary roll .greater target)),
    ("roll <= 5 && roll <= targetValue",
      binary (binary roll .lessEqual (whole 5)) .and (binary roll .lessEqual target)),
    ("baseValue < 50 ? roll >= 96 : roll == 100",
      choice (binary (reference "baseValue") .less (whole 50)) (binary roll .greaterEqual (whole 96))
        (binary roll .equal (whole 100)))]

theorem compileWith_trees : ∀ rule ∈ trees, Rule.compileWith Attempt.names rule.1.toList = .ok rule.2 := by
  decide +kernel

/-- A rule holds if the condition holds that its tree tells about. -/
theorem holds_eq {text : String} {expr : Rule.Expr} {told condition : Prop} [Decidable told] [Decidable condition]
    (known : (text, expr) ∈ trees) (tells : expr.Tells attempt told) (same : told ↔ condition) :
    (DeciderRule.mk level text).holds Rule.exact attempt = .ok (decide condition) := by
  rw [Tells] at tells
  simp [holds, compileWith_trees _ known, tells, bind, Except.bind, pure, Except.pure, Rule.Value.isTruthy, same]

/-- A rule that can be tested decides if it holds, and leaves the decision to the others if not. -/
theorem firstHolding_cons {text : String} {condition : Prop} [Decidable condition] {others : List DeciderRule}
    (tested : (DeciderRule.mk level text).holds Rule.exact attempt = .ok (decide condition)) :
    firstHolding Rule.exact attempt (⟨level, text⟩ :: others) =
      if condition then some level else firstHolding Rule.exact attempt others := by
  by_cases met : condition
  · rw [if_pos met, firstHolding_of_true (by simp [tested, met])]
  · rw [if_neg met, firstHolding_of_false (by simp [tested, met])]

theorem holds_hundred : (DeciderRule.mk level "roll == 100").holds Rule.exact attempt =
    .ok (decide (attempt.roll = 100)) :=
  holds_eq (by simp [trees]) (computes_roll.equal (computes_number 100)) (by norm_cast)

theorem holds_one : (DeciderRule.mk level "roll == 1").holds Rule.exact attempt =
    .ok (decide (attempt.roll = 1)) :=
  holds_eq (by simp [trees]) (computes_roll.equal (computes_number 1)) (by norm_cast)

theorem holds_above : (DeciderRule.mk level "roll > targetValue").holds Rule.exact attempt =
    .ok (decide (attempt.target < attempt.roll)) :=
  holds_eq (by simp [trees]) (computes_roll.greater computes_target) (by norm_cast)

theorem holds_within : (DeciderRule.mk level "roll <= targetValue").holds Rule.exact attempt =
    .ok (decide (attempt.roll ≤ attempt.target)) :=
  holds_eq (by simp [trees]) (computes_roll.lessEqual computes_target) (by norm_cast)

theorem holds_half : (DeciderRule.mk level "roll <= targetValue / 2").holds Rule.exact attempt =
    .ok (decide (attempt.roll * 2 ≤ attempt.target)) :=
  holds_eq (by simp [trees]) (computes_roll.lessEqual (computes_target.divide (computes_number 2)))
    (by rw [le_div_iff₀ (by norm_num)]; norm_cast)

theorem holds_fifth : (DeciderRule.mk level "roll <= targetValue / 5").holds Rule.exact attempt =
    .ok (decide (attempt.roll * 5 ≤ attempt.target)) :=
  holds_eq (by simp [trees]) (computes_roll.lessEqual (computes_target.divide (computes_number 5)))
    (by rw [le_div_iff₀ (by norm_num)]; norm_cast)

theorem holds_high_above : (DeciderRule.mk level "roll >= 96 && roll > targetValue").holds Rule.exact attempt =
    .ok (decide (96 ≤ attempt.roll ∧ attempt.target < attempt.roll)) :=
  holds_eq (by simp [trees])
    ((computes_roll.greaterEqual (computes_number 96)).and (computes_roll.greater computes_target)) (by norm_cast)

theorem holds_low_within : (DeciderRule.mk level "roll <= 5 && roll <= targetValue").holds Rule.exact attempt =
    .ok (decide (attempt.roll ≤ 5 ∧ attempt.roll ≤ attempt.target)) :=
  holds_eq (by simp [trees])
    ((computes_roll.lessEqual (computes_number 5)).and (computes_roll.lessEqual computes_target)) (by norm_cast)

theorem holds_high_or_hundred :
    (DeciderRule.mk level "baseValue < 50 ? roll >= 96 : roll == 100").holds Rule.exact attempt =
      .ok (decide (if attempt.base < 50 then 96 ≤ attempt.roll else attempt.roll = 100)) :=
  holds_eq (by simp [trees])
    ((computes_base.less (computes_number 50)).choice (computes_roll.greaterEqual (computes_number 96))
      (computes_roll.equal (computes_number 100))) (by norm_cast)

end DeciderRule

namespace Decider

open DeciderRule

variable {attempt lower higher : Attempt}

/-- The level between the worst and the best one, without difficulties. -/
def plainLevel (attempt : Attempt) : Level :=
  if attempt.target < attempt.roll then .failure else .success

/-- The level between the worst and the best one, with difficulties. -/
def gradedLevel (attempt : Attempt) : Level :=
  if attempt.target < attempt.roll then .failure
  else if attempt.roll * 5 ≤ attempt.target then .extreme
  else if attempt.roll * 2 ≤ attempt.target then .hard
  else .success

theorem decideOver_coc0 (attempt : Attempt) : coc0.decideOver Rule.exact attempt =
    some (if attempt.roll = 100 then .worst else if attempt.roll = 1 then .best else plainLevel attempt) := by
  rw [decideOver, coc0, firstHolding_cons holds_hundred, firstHolding_cons holds_one,
    firstHolding_cons holds_above, firstHolding_cons holds_within, plainLevel]
  split_ifs <;> first | rfl | omega

/-- The rules that stand behind those for the worst and the best level find the graded level. -/
theorem firstHolding_graded (attempt : Attempt) :
    firstHolding Rule.exact attempt
        [⟨.failure, "roll > targetValue"⟩, ⟨.extreme, "roll <= targetValue / 5"⟩,
          ⟨.hard, "roll <= targetValue / 2"⟩, ⟨.success, "roll <= targetValue"⟩] =
      some (gradedLevel attempt) := by
  rw [firstHolding_cons holds_above, firstHolding_cons holds_fifth, firstHolding_cons holds_half,
    firstHolding_cons holds_within, gradedLevel]
  split_ifs <;> first | rfl | omega

theorem decideOver_coc1 (attempt : Attempt) : coc1.decideOver Rule.exact attempt =
    some (if 96 ≤ attempt.roll ∧ attempt.target < attempt.roll then .worst
      else if attempt.roll ≤ 5 ∧ attempt.roll ≤ attempt.target then .best
      else gradedLevel attempt) := by
  rw [decideOver, coc1, firstHolding_cons holds_high_above, firstHolding_cons holds_low_within,
    firstHolding_graded]
  split_ifs <;> rfl

theorem decideOver_coc2 (attempt : Attempt) : coc2.decideOver Rule.exact attempt =
    some (if (if attempt.base < 50 then 96 ≤ attempt.roll else attempt.roll = 100) then .worst
      else if attempt.roll = 1 then .best
      else gradedLevel attempt) := by
  rw [decideOver, coc2, firstHolding_cons holds_high_or_hundred, firstHolding_cons holds_one,
    firstHolding_graded]
  split_ifs <;> rfl

/-- The attempts differ at most in their rolls and first d20s, and the first one has the lower roll of a d100. -/
structure LowerRoll (lower higher : Attempt) : Prop where
  base : higher.base = lower.base
  target : higher.target = lower.target
  first : 1 ≤ lower.roll
  order : lower.roll ≤ higher.roll
  last : higher.roll ≤ 100

theorem LowerRoll.plainLevel_le (apart : LowerRoll lower higher) :
    (plainLevel higher).rank ≤ (plainLevel lower).rank := by
  have order := apart.order
  rw [plainLevel, plainLevel, apart.target]
  split_ifs <;> first | decide | omega

theorem LowerRoll.gradedLevel_le (apart : LowerRoll lower higher) :
    (gradedLevel higher).rank ≤ (gradedLevel lower).rank := by
  have order := apart.order
  rw [gradedLevel, gradedLevel, apart.target]
  split_ifs <;> first | decide | omega

/-- The worst level on top of the rolls and the best one at their bottom keep a graduation. -/
theorem rank_le_of_ends {worst best worstHigher bestHigher : Prop} [Decidable worst] [Decidable best]
    [Decidable worstHigher] [Decidable bestHigher] {middle middleHigher : Level}
    (top : worst → worstHigher) (bottom : bestHigher → best) (between : middleHigher.rank ≤ middle.rank) :
    (if worstHigher then .worst else if bestHigher then .best else middleHigher : Level).rank ≤
      (if worst then .worst else if best then .best else middle : Level).rank := by
  have least : Level.worst.rank ≤ (if worst then .worst else if best then .best else middle : Level).rank :=
    Nat.zero_le _
  have greatest : middleHigher.rank ≤ Level.best.rank := by cases middleHigher <;> decide
  by_cases ends : worstHigher
  · rw [if_pos ends]
    exact least
  · rw [if_neg ends, if_neg fun holds => ends (top holds)]
    split_ifs with starts begins
    · exact Nat.le_refl _
    · exact absurd (bottom starts) begins
    · exact greatest
    · exact between

/-- A lower roll of a d100 is never worse: both rolls reach a level, and the lower one reaches at least that of the
higher one. -/
theorem decideOver_antitone {decider : Decider} (percentile : decider ∈ [coc0, coc1, coc2])
    (apart : LowerRoll lower higher) :
    ∃ better worse, decider.decideOver Rule.exact lower = some better ∧
      decider.decideOver Rule.exact higher = some worse ∧ worse.rank ≤ better.rank := by
  obtain ⟨base, target, first, order, last⟩ := apart
  simp only [List.mem_cons, List.not_mem_nil, or_false] at percentile
  rcases percentile with rfl | rfl | rfl
  · exact ⟨_, _, decideOver_coc0 lower, decideOver_coc0 higher,
      rank_le_of_ends (by omega) (by omega) (LowerRoll.plainLevel_le ⟨base, target, first, order, last⟩)⟩
  · exact ⟨_, _, decideOver_coc1 lower, decideOver_coc1 higher,
      rank_le_of_ends (by omega) (by omega) (LowerRoll.gradedLevel_le ⟨base, target, first, order, last⟩)⟩
  · exact ⟨_, _, decideOver_coc2 lower, decideOver_coc2 higher,
      rank_le_of_ends (by rw [base]; split_ifs <;> omega) (by omega)
        (LowerRoll.gradedLevel_le ⟨base, target, first, order, last⟩)⟩

theorem decideOver_antitone_house : ∃ better worse,
    coc1.decideOver Rule.exact ⟨60, 60, 12, none⟩ = some better ∧
      coc1.decideOver Rule.exact ⟨60, 60, 97, some 3⟩ = some worse ∧ worse.rank ≤ better.rank :=
  decideOver_antitone (by decide) ⟨rfl, rfl, by decide, by decide, by decide⟩

example : coc2.decideOver Rule.exact ⟨60, 60, 31, none⟩ = some .success := by
  rw [decideOver_coc2]
  rfl

end Decider

end Tabletop
